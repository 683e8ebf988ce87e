import Planar.Kind.Names

/-! Points that everyone knows by name. Each is told together with its text and
with whether it equals its partner, which is the point itself except at the
origin, whose partner is the point of the default coordinates. -/

namespace Planar

structure Landmark where
  kind : Kind
  point : kind.point.Val
  partner : kind.point.Val := point

namespace Landmark

open Integer.Format

def corner : Landmark where
  kind := { base := .integer (unsignedOf 16) }
  point := ⟨640#16, 480#16⟩

def origin : Landmark where
  kind := { base := .integer (signedOf 32) }
  point := ⟨0#32, 0#32⟩
  partner := Kind.origin _

def extreme : Landmark where
  kind := { base := .integer (signedOf 128) }
  point := ⟨BitVec.intMin 128, BitVec.intMax 128⟩

def nested : Landmark where
  kind := { base := .integer (unsignedOf 8), depth := 1 }
  point := ⟨⟨1#8, 2#8⟩, ⟨3#8, 4#8⟩⟩

def label : Landmark where
  kind := { base := .text }
  point := ⟨"left", "top"⟩

def named : List (String × Landmark) :=
  [("corner", corner), ("origin", origin), ("extreme", extreme), ("nested", nested),
    ("label", label)]

def toDatum (l : Landmark) : Datum :=
  .record [("point", l.kind.point.write l.point),
    ("debug", .ofChars (l.kind.point.text .plain l.point)),
    ("self_eq", .bool (l.kind.point.eq l.point l.partner))]

end Landmark

end Planar
