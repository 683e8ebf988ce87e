import Planar.Tree
import Planar.Proofs.Separable.Quoted

/-! Layouts keep their parts separable. A part on lines of its own is found by
taking the margins off again, which turns the indented text back into the
part's own text whatever that contains. -/

namespace Planar.Text

def dedent : Nat → List Char → List Char
  | _, [] => []
  | skip + 1, _ :: rest => dedent skip rest
  | 0, c :: rest => c :: dedent (if c == '\n' then margin.length else 0) rest

theorem dedent_indent (start : Bool) (s rest : List Char) :
    dedent (if start then margin.length else 0) (indent start s ++ rest) =
      s ++ dedent (if endsLine start s then margin.length else 0) rest := by
  induction s generalizing start with
  | nil => rfl
  | cons c s ih =>
    have hs := ih (c == '\n')
    cases start with
    | false => exact congrArg (c :: ·) hs
    | true => exact congrArg (c :: ·) hs

variable {α : Type} {leaf : α → Pieces}

theorem head?_flatten_entry (label : String) (part : Pieces) :
    (entry label part).flatten.head? = some ' ' := by
  have hne : label.toList ++ part.flatten ++ ",\n".toList ≠ [] := by simp
  obtain ⟨c, s, hs⟩ := List.exists_cons_of_ne_nil hne
  rw [flatten_entry, hs]
  rfl

theorem apart_entry (label : String) (part : Pieces) (rest : List Char) :
    Apart ((entry label part).flatten ++ rest) :=
  apart_append (head?_flatten_entry label part) rfl rest

theorem SeparableAt.entry {a : α} (h : SeparableAt leaf a) (label : String) :
    SeparableAt (fun a => entry label (leaf a)) a := by
  intro b rest rest' _ _ he
  have hline : ∀ s : List Char, endsLine true (s ++ ",\n".toList) = true := by
    intro s
    rw [endsLine_append]
    rfl
  -- An entry ends with its line, so that both rests are dedented from the start of a line.
  have hcut := fun s t => dedent_indent true (s ++ ",\n".toList) t
  simp only [hline, if_true] at hcut
  have hd := congrArg (dedent margin.length) he
  rw [flatten_entry, flatten_entry, hcut, hcut] at hd
  simp only [List.append_assoc, List.append_cancel_left_eq] at hd
  exact h (apart_append (c := ',') rfl rfl _) (apart_append (c := ',') rfl rfl _) hd

theorem SeparableAt.point {p : Point α} (hx : SeparableAt leaf p.x) (hy : SeparableAt leaf p.y)
    (alternate : Bool) : SeparableAt (fun p => Point.layout alternate (p.map leaf)) p := by
  intro q rest rest' _ _ he
  suffices hxy : p.x = q.x ∧ p.y = q.y by
    cases p
    cases q
    rw [Point.mk.injEq]
    exact hxy
  cases alternate with
  | false =>
    have comma : ∀ t, Apart (", y: ".toList ++ t) := apart_append (c := ',') rfl rfl
    have close : ∀ t, Apart (" \x7d".toList ++ t) := apart_append (c := ' ') rfl rfl
    simp only [Point.flatten_layout_false, List.append_assoc, List.append_cancel_left_eq] at he
    obtain ⟨hx, he⟩ := hx.cut (comma _) (comma _) he
    exact ⟨hx, hy (close _) (close _) (List.append_cancel_left he)⟩
  | true =>
    have close : ∀ t, Apart ("\x7d".toList ++ t) := apart_append (c := '\x7d') rfl rfl
    simp only [Point.flatten_layout_true, List.append_assoc, List.append_cancel_left_eq] at he
    obtain ⟨hx, he⟩ := (hx.entry "x: ").cut (apart_entry _ _ _) (apart_entry _ _ _) he
    exact ⟨hx, hy.entry "y: " (close _) (close _) he⟩

theorem Separable.nested (h : Separable leaf) (alternate : Bool) (n : Nat) :
    Separable (Nested.layout alternate leaf n) := by
  induction n with
  | zero => exact h
  | succ n ih => exact fun p => SeparableAt.point (ih p.x) (ih p.y) alternate

theorem Separable.tree (h : Separable leaf) (hne : ∀ a, (leaf a).flatten ≠ [])
    (hp : ∀ a, 'P' ∉ (leaf a).flatten) (alternate : Bool) :
    Separable (Tree.layout alternate leaf) := by
  have hnode : ∀ p, ∃ s, (Tree.layout alternate leaf (.node p)).flatten = 'P' :: s := by
    intro p
    rw [Tree.layout_node]
    cases alternate <;> exact ⟨_, rfl⟩
  have hmix : ∀ a p rest rest', (Tree.layout alternate leaf (.leaf a)).flatten ++ rest ≠
      (Tree.layout alternate leaf (.node p)).flatten ++ rest' := by
    intro a p rest rest' he
    obtain ⟨s, hs⟩ := hnode p
    rw [hs] at he
    exact append_ne_cons (hne a) (hp a) rest _ he
  intro t
  induction t with
  | leaf a =>
    intro u rest rest' hr hr' he
    cases u with
    | leaf b => exact congrArg Tree.leaf (h a hr hr' he)
    | node q => exact absurd he (hmix a q rest rest')
  | node x y ihx ihy =>
    intro u rest rest' hr hr' he
    cases u with
    | leaf b => exact absurd he.symm (hmix b ⟨x, y⟩ rest' rest)
    | node q => exact congrArg Tree.node (SeparableAt.point ihx ihy alternate hr hr' he)

theorem flatten_layoutOption_false (part : Pieces) :
    (layoutOption false (some part)).flatten =
      "Some(".toList ++ (part.flatten ++ ")".toList) := by
  simp only [layoutOption, Bool.false_eq_true, if_false, List.flatten_append, List.flatten_cons,
    List.flatten_nil, List.append_nil, List.append_assoc]

theorem flatten_layoutOption_true (part : Pieces) :
    (layoutOption true (some part)).flatten =
      "Some(\n".toList ++ ((entry "" part).flatten ++ ")".toList) := by
  simp only [layoutOption, if_true, List.flatten_append, List.flatten_cons, List.flatten_nil,
    List.append_nil, List.append_assoc]

theorem Separable.option (h : Separable leaf) (alternate : Bool) :
    Separable fun v : Option α => layoutOption alternate (v.map leaf) := by
  intro v w rest rest' _ _ he
  cases v with
  | none =>
    cases w with
    | none => rfl
    | some b => cases alternate <;> simp [layoutOption] at he
  | some a =>
    have close : ∀ t, Apart (")".toList ++ t) := apart_append (c := ')') rfl rfl
    cases w with
    | none => cases alternate <;> simp [layoutOption] at he
    | some b =>
      cases alternate with
      | false =>
        simp only [Option.map_some, flatten_layoutOption_false, List.append_assoc,
          List.append_cancel_left_eq] at he
        rw [h a (close _) (close _) he]
      | true =>
        simp only [Option.map_some, flatten_layoutOption_true, List.append_assoc,
          List.append_cancel_left_eq] at he
        rw [(h a).entry "" (close _) (close _) he]

section Items

variable {item : α → Pieces} {c : Char}

theorem head?_items (hi : ∀ a, (item a).flatten.head? = some c) (a : α) (s : List α)
    (rest : List Char) : (((a :: s).flatMap item).flatten ++ rest).head? = some c := by
  rw [List.flatMap_cons, List.flatten_append, List.append_assoc, List.head?_append, hi]
  rfl

theorem apart_items (hc : c.isAlphanum = false) (hi : ∀ a, (item a).flatten.head? = some c)
    (s : List α) (rest : List Char) : Apart ((s.flatMap item).flatten ++ ("]".toList ++ rest)) := by
  cases s with
  | nil => exact apart_append (c := ']') rfl rfl rest
  | cons a s =>
    intro d hd
    rw [head?_items hi] at hd
    obtain rfl : c = d := Option.some.inj hd
    exact hc

theorem Separable.items (h : Separable item) (hc : c.isAlphanum = false) (hb : c ≠ ']')
    (hi : ∀ a, (item a).flatten.head? = some c) {s t : List α} {rest rest' : List Char}
    (he : (s.flatMap item).flatten ++ ("]".toList ++ rest) =
      (t.flatMap item).flatten ++ ("]".toList ++ rest')) : s = t := by
  have hmix : ∀ a (s : List α) (rest rest' : List Char),
      ((a :: s).flatMap item).flatten ++ rest ≠ "]".toList ++ rest' := by
    intro a s rest rest' he
    have hh := congrArg List.head? he
    rw [head?_items hi] at hh
    exact hb (Option.some.inj hh)
  induction s generalizing t with
  | nil =>
    cases t with
    | nil => rfl
    | cons b t => exact absurd he.symm (hmix b t _ _)
  | cons a s ih =>
    cases t with
    | nil => exact absurd he (hmix a s _ _)
    | cons b t =>
      rw [List.flatMap_cons, List.flatMap_cons, List.flatten_append, List.flatten_append,
        List.append_assoc, List.append_assoc] at he
      obtain ⟨hab, he⟩ := (h a).cut (apart_items hc hi s _) (apart_items hc hi t _) he
      rw [hab, ih he]

end Items

theorem Separable.behind_comma (h : Separable leaf) :
    Separable fun a => ", ".toList :: leaf a := by
  intro a b rest rest' hr hr' he
  rw [List.flatten_cons, List.flatten_cons, List.append_assoc, List.append_assoc,
    List.append_cancel_left_eq] at he
  exact h a hr hr' he

theorem intercalate_map (a : α) (s : List α) :
    List.intercalate [", ".toList] ((a :: s).map leaf) =
      leaf a ++ s.flatMap fun b => ", ".toList :: leaf b := by
  induction s generalizing a with
  | nil => exact (List.intercalate_singleton).trans (List.append_nil _).symm
  | cons b s ih =>
    have hb := ih b
    rw [List.map_cons] at hb
    rw [List.map_cons, List.map_cons, List.intercalate_cons_cons, hb, List.flatMap_cons,
      List.append_assoc]
    rfl

theorem flatten_layoutList_false (a : α) (s : List α) (rest : List Char) :
    (layoutList false ((a :: s).map leaf)).flatten ++ rest =
      "[".toList ++ ((leaf a).flatten ++
        ((s.flatMap fun b => ", ".toList :: leaf b).flatten ++ ("]".toList ++ rest))) := by
  have hl : layoutList false ((a :: s).map leaf) =
      ["[".toList] ++ List.intercalate [", ".toList] ((a :: s).map leaf) ++ ["]".toList] := rfl
  rw [hl, intercalate_map]
  simp only [List.flatten_append, List.flatten_cons, List.flatten_nil, List.append_nil,
    List.append_assoc]

theorem flatten_layoutList_true (a : α) (s : List α) (rest : List Char) :
    (layoutList true ((a :: s).map leaf)).flatten ++ rest =
      "[\n".toList ++ (((a :: s).flatMap fun b => entry "" (leaf b)).flatten ++
        ("]".toList ++ rest)) := by
  have hl : layoutList true ((a :: s).map leaf) =
      ["[\n".toList] ++ ((a :: s).map leaf).flatMap (entry "") ++ ["]".toList] := rfl
  rw [hl, List.flatMap_map]
  simp only [List.flatten_append, List.flatten_cons, List.flatten_nil, List.append_nil,
    List.append_assoc]

theorem Separable.list (h : Separable leaf) (hne : ∀ a, (leaf a).flatten ≠ [])
    (hb : ∀ a, ']' ∉ (leaf a).flatten) (alternate : Bool) :
    Separable fun s : List α => layoutList alternate (s.map leaf) := by
  have hmix : ∀ a (s : List α) (rest rest' : List Char),
      (layoutList alternate ((a :: s).map leaf)).flatten ++ rest ≠
        (layoutList alternate (([] : List α).map leaf)).flatten ++ rest' := by
    intro a s rest rest' he
    cases alternate with
    | false =>
      rw [flatten_layoutList_false] at he
      exact append_ne_cons (hne a) (hb a) _ _ (List.cons.inj he).2
    | true =>
      rw [flatten_layoutList_true] at he
      have hc : '\n' = ']' := (List.cons.inj (List.cons.inj he).2).1
      exact absurd hc (by decide)
  intro s t rest rest' _ _ he
  cases s with
  | nil =>
    cases t with
    | nil => rfl
    | cons b t => exact absurd he.symm (hmix b t _ _)
  | cons a s =>
    cases t with
    | nil => exact absurd he (hmix a s _ _)
    | cons b t =>
      cases alternate with
      | false =>
        have hi : ∀ b, (", ".toList :: leaf b).flatten.head? = some ',' := fun _ => rfl
        rw [flatten_layoutList_false, flatten_layoutList_false] at he
        obtain ⟨hab, he⟩ := (h a).cut (apart_items rfl hi s _) (apart_items rfl hi t _)
          (List.append_cancel_left he)
        rw [hab, h.behind_comma.items rfl (by decide) hi he]
      | true =>
        have hitem : Separable fun a => entry "" (leaf a) := fun a => (h a).entry ""
        rw [flatten_layoutList_true, flatten_layoutList_true] at he
        exact hitem.items rfl (by decide) (fun b => head?_flatten_entry "" (leaf b))
          (List.append_cancel_left he)

end Planar.Text
