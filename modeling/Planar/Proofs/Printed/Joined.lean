import Planar.Proofs.Printed.Outline

/-! From the text of a point that is laid out back to its text on one line. The line
ends of the layout are found without knowing the point: behind the comma in front of
a brace, and then all others. No leaf is taken for layout, whatever it contains. -/

namespace Planar

namespace Text

/-- Puts a space for each piece of a text, where `piece` tells the length of the piece with
which a text begins, or nothing. Of a piece that has begun `skip` characters are left. -/
def joined (piece : List Char → Nat) : (skip : Nat) → List Char → List Char
  | _, [] => []
  | skip + 1, _ :: rest => joined piece skip rest
  | 0, c :: rest =>
    match piece (c :: rest) with
    | 0 => c :: joined piece 0 rest
    | skip + 1 => ' ' :: joined piece skip rest

def lineEnd : List Char → Nat
  | '\n' :: rest => 1 + (rest.takeWhile (· == ' ')).length
  | _ => 0

/-- A comma and a line end with all the spaces behind it, in front of a closing brace. -/
def lastLineEnd : List Char → Nat
  | ',' :: '\n' :: rest =>
    if (rest.dropWhile (· == ' ')).head? = some '\x7d' then
      2 + (rest.takeWhile (· == ' ')).length
    else 0
  | _ => 0

section Joined

variable {piece : List Char → Nat} {c : Char} {s rest : List Char}

theorem joined_cons_of_zero (h : piece (c :: rest) = 0) :
    joined piece 0 (c :: rest) = c :: joined piece 0 rest := by
  rw [joined, h]

theorem joined_length (s rest : List Char) :
    joined piece s.length (s ++ rest) = joined piece 0 rest := by
  induction s with
  | nil => rfl
  | cons c s ih => exact ih

theorem joined_of_piece (h : piece (c :: (s ++ rest)) = s.length + 1) :
    joined piece 0 (c :: (s ++ rest)) = ' ' :: joined piece 0 rest := by
  rw [joined, h]
  exact congrArg (' ' :: ·) (joined_length s rest)

theorem joined_append_of_not_mem {first : Char}
    (hpiece : ∀ c rest, c ≠ first → piece (c :: rest) = 0) (h : first ∉ s) (rest : List Char) :
    joined piece 0 (s ++ rest) = s ++ joined piece 0 rest := by
  induction s with
  | nil => rfl
  | cons c s ih =>
    rw [List.mem_cons, not_or] at h
    rw [List.cons_append, joined_cons_of_zero (hpiece c _ (Ne.symm h.1)), ih h.2, List.cons_append]

end Joined

theorem lineEnd_of_ne {c : Char} (rest : List Char) (hc : c ≠ '\n') : lineEnd (c :: rest) = 0 := by
  unfold lineEnd
  split
  · next h => exact absurd (List.cons.inj h).1 hc
  · rfl

theorem lastLineEnd_of_ne {c : Char} (rest : List Char) (hc : c ≠ ',') :
    lastLineEnd (c :: rest) = 0 := by
  unfold lastLineEnd
  split
  · next h => exact absurd (List.cons.inj h).1 hc
  · rfl

theorem lastLineEnd_of_head?_ne {rest : List Char} (h : rest.head? ≠ some '\n') (c : Char) :
    lastLineEnd (c :: rest) = 0 := by
  unfold lastLineEnd
  split
  · next he =>
    rw [(List.cons.inj he).2] at h
    exact absurd rfl h
  · rfl

theorem takeWhile_margin {c : Char} (hc : c ≠ ' ') (n : Nat) (rest : List Char) :
    (List.replicate n ' ' ++ c :: rest).takeWhile (· == ' ') = List.replicate n ' ' := by
  refine takeWhile_run (fun d hd => beq_iff_eq.mpr (List.eq_of_mem_replicate hd)) ?_
  rintro _ ⟨⟩
  exact beq_false_of_ne hc

theorem dropWhile_margin {c : Char} (hc : c ≠ ' ') (n : Nat) (rest : List Char) :
    (List.replicate n ' ' ++ c :: rest).dropWhile (· == ' ') = c :: rest := by
  have hparts := (List.replicate n ' ' ++ c :: rest).takeWhile_append_dropWhile (p := (· == ' '))
  rw [takeWhile_margin hc] at hparts
  exact List.append_cancel_left hparts

theorem joined_newLine {c : Char} (hc : c ≠ ' ') (level : Nat) (rest : List Char) :
    joined lineEnd 0 (newLine level ++ c :: rest) = ' ' :: joined lineEnd 0 (c :: rest) := by
  refine joined_of_piece ?_
  rw [lineEnd, takeWhile_margin hc, Nat.add_comm]

theorem joined_lineEnd_append {s : List Char} (hs : '\n' ∉ s) (rest : List Char) :
    joined lineEnd 0 (s ++ rest) = s ++ joined lineEnd 0 rest :=
  joined_append_of_not_mem (fun _ => lineEnd_of_ne) hs rest

theorem joined_around_newLine {before after : List Char} {c : Char} (hbefore : '\n' ∉ before)
    (hc : c ≠ ' ') (hafter : '\n' ∉ c :: after) (level : Nat) (rest : List Char) :
    joined lineEnd 0 (before ++ (newLine level ++ c :: after) ++ rest) =
      before ++ ' ' :: c :: after ++ joined lineEnd 0 rest := by
  rw [List.append_assoc, joined_lineEnd_append hbefore, List.append_assoc, List.cons_append,
    joined_newLine hc, ← List.cons_append, joined_lineEnd_append hafter, List.append_assoc]
  rfl

theorem joined_lastNewLine (level : Nat) (rest : List Char) :
    joined lastLineEnd 0 (',' :: (newLine level ++ '\x7d' :: rest)) =
      ' ' :: joined lastLineEnd 0 ('\x7d' :: rest) := by
  refine joined_of_piece ?_
  rw [newLine, List.cons_append, lastLineEnd, dropWhile_margin (by decide),
    takeWhile_margin (by decide), if_pos (by rfl), List.length_cons, Nat.add_comm]

theorem comma_not_mem_newLine (level : Nat) : ',' ∉ newLine level := by
  rw [newLine, List.mem_cons, not_or]
  exact ⟨by decide, fun h => absurd (List.eq_of_mem_replicate h) (by decide)⟩

theorem lastLineEnd_of_not_last {c : Char} (hc : c ≠ ' ') (hlast : c ≠ '\x7d') (level : Nat)
    (rest : List Char) : lastLineEnd (',' :: (newLine level ++ c :: rest)) = 0 := by
  rw [newLine, List.cons_append, lastLineEnd, dropWhile_margin hc, if_neg]
  rintro ⟨⟩
  exact hlast rfl

theorem joined_lastLineEnd_append {s rest : List Char} (hs : '\n' ∉ s)
    (hrest : rest.head? ≠ some '\n') :
    joined lastLineEnd 0 (s ++ rest) = s ++ joined lastLineEnd 0 rest := by
  induction s with
  | nil => rfl
  | cons c s ih =>
    rw [List.mem_cons, not_or] at hs
    have hhead : (s ++ rest).head? ≠ some '\n' := by
      cases s with
      | nil => exact hrest
      | cons d s =>
        rintro ⟨⟩
        exact hs.2 (List.mem_cons_self ..)
    rw [List.cons_append, joined_cons_of_zero (lastLineEnd_of_head?_ne hhead c), ih hs.2,
      List.cons_append]

/-- Puts a space for each comma and line end in front of a closing brace. -/
def joinClosings (s : List Char) : List Char := joined lastLineEnd 0 s

def joinLines (s : List Char) : List Char := joined lineEnd 0 s

end Text

open Text

namespace Frame

def closed (level : Nat) : Frame := { alternate level with closing := plain.closing }

structure JoinsTo (piece : List Char → Nat) (frame frame' : Frame) : Prop where
  opening (rest : List Char) :
    joined piece 0 (frame.opening ++ rest) = frame'.opening ++ joined piece 0 rest
  between (rest : List Char) :
    joined piece 0 (frame.between ++ rest) = frame'.between ++ joined piece 0 rest
  closing (rest : List Char) :
    joined piece 0 (frame.closing ++ rest) = frame'.closing ++ joined piece 0 rest
  between_head (rest : List Char) : (frame.between ++ rest).head? ≠ some '\n'
  closing_head (rest : List Char) : (frame.closing ++ rest).head? ≠ some '\n'

theorem alternate_joinsTo_closed (level : Nat) :
    JoinsTo lastLineEnd (alternate level) (closed level) where
  opening rest := by
    refine joined_append_of_not_mem (fun _ => lastLineEnd_of_ne) ?_ rest
    unfold alternate
    rw [List.mem_append, List.mem_append, not_or, not_or]
    exact ⟨by decide, comma_not_mem_newLine _, by decide⟩
  -- The comma between the coordinates begins no piece, as a label is behind the line end.
  between rest := by
    have hcomma : ',' ∉ newLine (level + 1) ++ "y: ".toList := by
      rw [List.mem_append, not_or]
      exact ⟨comma_not_mem_newLine _, by decide⟩
    have hnotLast : lastLineEnd (',' :: (newLine (level + 1) ++ "y: ".toList ++ rest)) = 0 := by
      rw [List.append_assoc]
      exact lastLineEnd_of_not_last (by decide) (by decide) (level + 1) (": ".toList ++ rest)
    exact (joined_cons_of_zero hnotLast).trans
      (congrArg (',' :: ·) (joined_append_of_not_mem (fun _ => lastLineEnd_of_ne) hcomma rest))
  closing rest := by
    have hbrace : joined lastLineEnd 0 ('\x7d' :: rest) = '\x7d' :: joined lastLineEnd 0 rest :=
      joined_cons_of_zero (lastLineEnd_of_ne rest (by decide))
    have hlast := joined_lastNewLine level rest
    rw [hbrace] at hlast
    unfold closed alternate plain
    simpa using hlast
  between_head rest := nofun
  closing_head rest := nofun

theorem closed_joinsTo_plain (level : Nat) : JoinsTo lineEnd (closed level) plain where
  opening rest := by
    have hpoint : '\n' ∉ "Point \x7b".toList := by decide
    have hlabel : '\n' ∉ 'x' :: ": ".toList := by decide
    exact joined_around_newLine hpoint (by decide) hlabel (level + 1) rest
  between rest := by
    have hcomma : '\n' ∉ ",".toList := by decide
    have hlabel : '\n' ∉ 'y' :: ": ".toList := by decide
    exact joined_around_newLine hcomma (by decide) hlabel (level + 1) rest
  closing rest := by
    have hbrace : '\n' ∉ plain.closing := by decide
    exact joined_lineEnd_append hbrace rest
  between_head rest := nofun
  closing_head rest := nofun

end Frame

namespace Tree

variable {α : Type} {piece : List Char → Nat} {leaf : α → List Char} {t : Tree α}

theorem joined_compose {frame frame' : Nat → Frame}
    (hframe : ∀ level, (frame level).JoinsTo piece (frame' level))
    (hleaf : ∀ e ∈ t.leaves, ∀ rest : List Char, rest.head? ≠ some '\n' →
      joined piece 0 (leaf e.2 ++ rest) = leaf e.2 ++ joined piece 0 rest)
    (level : Nat) {rest : List Char} (hrest : rest.head? ≠ some '\n') :
    joined piece 0 (compose frame id leaf level t ++ rest) =
      compose frame' id leaf level t ++ joined piece 0 rest := by
  induction t generalizing level rest with
  | leaf a => exact hleaf ([], a) (List.mem_singleton_self _) rest hrest
  | node x y ihx ihy =>
    obtain ⟨hx, hy⟩ := (forall_mem_leaves_node fun a => ∀ rest : List Char,
      rest.head? ≠ some '\n' →
        joined piece 0 (leaf a ++ rest) = leaf a ++ joined piece 0 rest).mp hleaf
    have h := hframe level
    simp only [compose_node, List.map_id, List.append_assoc]
    rw [h.opening, ihx hx _ (h.between_head _), h.between, ihy hy _ (h.closing_head _), h.closing]

theorem joinClosings_compose (h : ∀ e ∈ t.leaves, '\n' ∉ leaf e.2) (level : Nat) :
    joinClosings (compose .alternate id leaf level t) = compose .closed id leaf level t := by
  have hjoined := joined_compose Frame.alternate_joinsTo_closed
    (fun e he _ hrest => joined_lastLineEnd_append (h e he) hrest) level
    (show ([] : List Char).head? ≠ some '\n' by decide)
  rwa [List.append_nil, joined, List.append_nil] at hjoined

theorem joinLines_compose (h : ∀ e ∈ t.leaves, '\n' ∉ leaf e.2) (level : Nat) :
    joinLines (compose .closed id leaf level t) = compose (fun _ => .plain) id leaf level t := by
  have hjoined := joined_compose Frame.closed_joinsTo_plain
    (fun e he rest _ => joined_lineEnd_append (h e he) rest) level
    (show ([] : List Char).head? ≠ some '\n' by decide)
  rwa [List.append_nil, joined, List.append_nil] at hjoined

end Tree

namespace Kind

variable {k : Kind}

theorem leaf_text_alternate (hk : k.base.oneLine = true) {style : Style} (hex : style.hex = none)
    {p : k.Val} {e : List Axis × k.base.Val} (he : e ∈ (k.toTree p).leaves) (alternate : Bool) :
    text ⟨k.base, 0⟩ { style with alternate := alternate } e.2 = text ⟨k.base, 0⟩ style e.2 :=
  congrArg List.flatten
    (Base.layout_alternate hk (leaf?_eq_some_iff.mp (mem_leaves_iff.mp he)).2 hex alternate)

/-- The leaves are printed the same in both texts, and of the layout nothing else is left. -/
theorem alternate_text_joins_to_plain_text (hk : k.base.oneLine = true) {style : Style}
    (hex : style.hex = none) (p : k.point.Val) :
    joinLines (joinClosings (k.point.text { style with alternate := true } p)) =
      k.point.text { style with alternate := false } p := by
  have halternate := text_eq_compose (k := k.point) hk { style with alternate := true } p
  have hplain := text_eq_compose (k := k.point) hk { style with alternate := false } p
  have hline : ∀ e ∈ (k.point.toTree p).leaves, '\n' ∉ text ⟨k.base, 0⟩ style e.2 :=
    fun e he => newline_not_mem_leaf (k := k.point) hk style he
  have hleaf (alternate : Bool) : ∀ e ∈ (k.point.toTree p).leaves,
      text ⟨k.base, 0⟩ { style with alternate := alternate } e.2 = text ⟨k.base, 0⟩ style e.2 :=
    fun e he => leaf_text_alternate (k := k.point) hk hex he alternate
  calc joinLines (joinClosings (k.point.text { style with alternate := true } p))
      = joinLines (joinClosings
          ((k.point.toTree p).compose .alternate id (text ⟨k.base, 0⟩ style) 0)) := by
        rw [halternate]
        exact congrArg _ (congrArg _ (Tree.compose_congr (hleaf true) 0))
    _ = joinLines ((k.point.toTree p).compose .closed id (text ⟨k.base, 0⟩ style) 0) := by
        rw [Tree.joinClosings_compose hline]
    _ = (k.point.toTree p).compose (fun _ => .plain) id (text ⟨k.base, 0⟩ style) 0 :=
        Tree.joinLines_compose hline 0
    _ = k.point.text { style with alternate := false } p := by
        rw [hplain]
        exact (Tree.compose_congr (hleaf false) 0).symm

/-- Each leaf has something in it that looks like a line end of the layout. -/
theorem alternate_text_of_misleading_leaves_joins :
    let k : Kind := { base := .text, depth := 1 }
    let p : k.point.Val := ⟨⟨",\n\x7d", " \x7d"⟩, ⟨",", "\n    y: "⟩⟩
    let style : Style := { zero := true, width := 9 }
    k.base.oneLine = true ∧ style.hex = none ∧
    joinLines (joinClosings (k.point.text { style with alternate := true } p)) =
      ("Point \x7b x: Point \x7b x: \",\\n\x7d\", y: \" \x7d\" \x7d, " ++
        "y: Point \x7b x: \",\", y: \"\\n    y: \" \x7d \x7d").toList := by
  intro k p style
  refine ⟨rfl, rfl, ?_⟩
  rw [alternate_text_joins_to_plain_text (k := k) rfl rfl p]
  decide +kernel

end Kind

end Planar
