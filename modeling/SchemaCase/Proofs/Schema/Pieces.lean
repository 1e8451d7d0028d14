import SchemaCase.Proofs.Schema.Grammar

/-! Pieces of a text in the place of others, and pieces behind a byte order mark. A mark in front of
a text that has none changes no piece but the first. -/

namespace SchemaCase

open Source

namespace Piece

inductive Takes : Piece → Piece → Prop
  | passthrough {text : Text} : Takes (.passthrough text) (.passthrough text)
  | block {header newHeader : Header} {body newBody : Text}
      (wellFormed : header.WellFormed → newHeader.WellFormed)
      (braces : codeBraces (cells newBody) = codeBraces (cells body))
      (mode : modeAfter .code body = .code → modeAfter .code newBody = .code) :
      Takes (.block newHeader newBody) (.block header body)

end Piece

theorem Arranged.takes {before after : Text} {pieces others : List Piece}
    (h : Arranged before pieces) (htakes : List.Forall₂ Piece.Takes others pieces)
    (hempty : before = [] → after = []) (hstart : StartsLine before → StartsLine after) :
    Arranged after others := by
  -- All that a piece asks of the text in front is whether it is empty and whether it ends a line.
  induction h generalizing others after with
  | nil =>
      cases htakes
      exact .nil
  | @passthrough before text pieces nonempty noBrace separate tail ih =>
      cases htakes with
      | cons hhead hrest =>
          cases hhead
          refine .passthrough nonempty noBrace ?_ (ih hrest ?_ ?_)
          · intro other hother
            cases hrest with
            | nil => cases hother
            | cons hnext hrest =>
                cases hother
                cases hnext
                exact separate other rfl
          · intro hnil
            exact absurd (List.append_eq_nil_iff.mp hnil).2 nonempty
          · rintro (hnil | hfeed | hmark)
            · exact absurd (List.append_eq_nil_iff.mp hnil).2 nonempty
            · rw [List.getLast?_append_of_ne_nil _ nonempty] at hfeed
              exact .inr (.inl (by rw [List.getLast?_append_of_ne_nil _ nonempty, hfeed]))
            · rcases List.append_eq_singleton_iff.mp hmark with ⟨hnil, rfl⟩ | ⟨-, hnil⟩
              · rw [hempty hnil]
                exact .inr (.inr rfl)
              · exact absurd hnil nonempty
  | @block before header body pieces lineStart wellFormed balanced closed tail ih =>
      cases htakes with
      | cons hhead hrest =>
          cases hhead with
          | block hheader hbraces hmode =>
              refine .block (hstart lineStart) (hheader wellFormed) (by rwa [hbraces])
                (hmode closed) (ih hrest ?_ ?_)
              · intro hnil
                simp at hnil
              · intro hline
                rw [← List.append_assoc] at hline
                exact absurd hline (not_startsLine_brace _)

theorem Piece.Takes.refl (piece : Piece) : piece.Takes piece := by
  cases piece with
  | passthrough text => exact .passthrough
  | block header body => exact .block id rfl id

theorem Arranged.behind {before after : Text} {pieces : List Piece} (h : Arranged before pieces)
    (hempty : before = [] → after = []) (hstart : StartsLine before → StartsLine after) :
    Arranged after pieces :=
  h.takes (List.forall₂_same.mpr fun piece _ => .refl piece) hempty hstart

theorem startsLine_of_mark {before : Text} (h : StartsLine (byteOrderMark :: before)) :
    StartsLine before := by
  rcases h with hnil | hfeed | hmark
  · cases hnil
  · cases before with
    | nil => exact .inl rfl
    | cons c before => exact .inr (.inl (by rwa [List.getLast?_cons_cons] at hfeed))
  · exact .inl (List.cons.inj hmark).2

theorem startsLine_mark {before : Text} (hmark : before.head? ≠ some byteOrderMark)
    (h : StartsLine before) : StartsLine (byteOrderMark :: before) := by
  rcases h with rfl | hfeed | rfl
  · exact .inr (.inr rfl)
  · cases before with
    | nil => cases hfeed
    | cons c before => exact .inr (.inl (by rwa [List.getLast?_cons_cons]))
  · exact absurd rfl hmark

theorem cells_mark (text : Text) :
    cells (byteOrderMark :: text) = ⟨byteOrderMark, .code⟩ :: cells text := rfl

theorem Header.WellFormed.mark_not_mem {header : Header} (h : header.WellFormed) :
    byteOrderMark ∉ header.render :=
  h.not_mem_render (by decide) (by decide +kernel) (by decide)

namespace Piece

def mark : List Piece → List Piece
  | .passthrough text :: rest => .passthrough (byteOrderMark :: text) :: rest
  | pieces => .passthrough [byteOrderMark] :: pieces

theorem render_mark (pieces : List Piece) :
    (mark pieces).flatMap render = byteOrderMark :: pieces.flatMap render := by
  cases pieces with
  | nil => rfl
  | cons piece rest => cases piece <;> rfl

end Piece

theorem Arranged.mark {pieces : List Piece} (h : Arranged [] pieces)
    (hmark : (pieces.flatMap Piece.render).head? ≠ some byteOrderMark) :
    Arranged [] (Piece.mark pieces) := by
  have hbrace : ∀ cell ∈ cells [byteOrderMark], cell.isBrace = false := by
    intro cell hcell
    rw [List.mem_singleton.mp hcell]
    decide
  cases h with
  | nil => exact .passthrough (by simp) hbrace (by simp) .nil
  | @passthrough _ text rest nonempty noBrace separate tail =>
      have hhead : text.head? ≠ some byteOrderMark := by
        cases text with
        | nil => exact absurd rfl nonempty
        | cons c text => exact hmark
      refine .passthrough (by simp) ?_ separate (tail.behind ?_ (startsLine_mark hhead))
      · rw [cells_mark, List.forall_mem_cons]
        exact ⟨by decide, noBrace⟩
      · exact fun hnil => absurd hnil nonempty
  | @block _ header body rest lineStart wellFormed balanced closed tail =>
      refine .passthrough (by simp) hbrace (by simp) (.block (.inr (.inr rfl)) wellFormed balanced
        closed (tail.behind ?_ ?_))
      · intro hnil
        simp at hnil
      · intro hline
        simp only [List.nil_append] at hline
        exact absurd hline (not_startsLine_brace _)

/-- Whatever is read behind a byte order mark is read without it as well. -/
theorem Arranged.exists_unmarked {marked : List Piece} {rest : Text} (h : Arranged [] marked)
    (htext : marked.flatMap Piece.render = byteOrderMark :: rest) :
    ∃ pieces, marked = Piece.mark pieces ∧ Arranged [] pieces ∧
      pieces.flatMap Piece.render = rest := by
  cases h with
  | nil => cases htext
  | @passthrough _ text pieces nonempty noBrace separate tail =>
      obtain ⟨c, text, rfl⟩ := List.exists_cons_of_ne_nil nonempty
      obtain ⟨rfl, hrest⟩ := List.cons.inj htext
      rw [cells_mark, List.forall_mem_cons] at noBrace
      have htail : Arranged text pieces := tail.behind nofun startsLine_of_mark
      cases text with
      | nil =>
          refine ⟨pieces, ?_, htail, hrest⟩
          cases htail with
          | nil => rfl
          | passthrough nonempty noBrace other tail => exact absurd rfl (separate _)
          | block lineStart => rfl
      | cons d text =>
          exact ⟨.passthrough (d :: text) :: pieces, rfl,
            .passthrough (by simp) noBrace.2 separate htail, hrest⟩
  | @block _ header body pieces lineStart wellFormed balanced closed tail =>
      have hmem : byteOrderMark ∈ header.render := by
        obtain ⟨c, shown, hshown⟩ : ∃ c shown, header.render = c :: shown :=
          List.exists_cons_of_ne_nil (by simp [Header.render])
        rw [List.flatMap_cons, Piece.render, hshown] at htext
        rw [hshown, (List.cons.inj htext).1]
        exact List.mem_cons_self
      exact absurd hmem wellFormed.mark_not_mem

end SchemaCase
