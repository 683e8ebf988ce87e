import Planar.Kind.Basic

/-! The names of the kinds of coordinates. -/

namespace Planar

namespace Integer.Format

def signedOf (bits : Nat) : Format := ⟨true, bits⟩

def unsignedOf (bits : Nat) : Format := ⟨false, bits⟩

end Integer.Format

namespace Kind

open Integer.Format

def named : List (String × Kind) :=
  [("i8", { base := .integer (signedOf 8) }),
    ("u8", { base := .integer (unsignedOf 8) }),
    ("i16", { base := .integer (signedOf 16) }),
    ("u16", { base := .integer (unsignedOf 16) }),
    ("i32", { base := .integer (signedOf 32) }),
    ("u32", { base := .integer (unsignedOf 32) }),
    ("i64", { base := .integer (signedOf 64) }),
    ("u64", { base := .integer (unsignedOf 64) }),
    ("i128", { base := .integer (signedOf 128) }),
    ("u128", { base := .integer (unsignedOf 128) }),
    ("f32", { base := .binary .single }),
    ("f64", { base := .binary .double }),
    ("bool", { base := .bool }),
    ("char", { base := .char }),
    ("unit", { base := .unit }),
    ("option_i64", { base := .option (signedOf 64) }),
    ("vec_i32", { base := .list (signedOf 32) }),
    ("string", { base := .text }),
    ("raw", { base := .raw }),
    ("tree", { base := .tree (signedOf 64) }),
    ("point_i32", { base := .integer (signedOf 32), depth := 1 }),
    ("point_f64", { base := .binary .double, depth := 1 }),
    ("point_string", { base := .text, depth := 1 }),
    ("point_raw", { base := .raw, depth := 1 }),
    ("point_point_u8", { base := .integer (unsignedOf 8), depth := 2 })]

def ofName? (name : String) : Option Kind := named.lookup name

end Kind

end Planar
