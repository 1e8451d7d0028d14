import Mathlib.Data.List.Forall2
import SchemaCase.Proofs.Schema.Braces
import SchemaCase.Proofs.Text.Splitting

/-! The lines of a body: cutting a body into lines and writing them one after the other undo each
other, so that a body has one division into lines, and what the code of a body shows is what the
code of its lines shows. -/

namespace SchemaCase

open Source

theorem Text.split_of_not_mem {separator : Char} {text : Text} (h : separator ∉ text) :
    Text.split separator text = [text] := by
  apply splitWhere_run
  intro c hc
  exact beq_false_of_ne (ne_of_mem_of_not_mem hc h)

theorem Text.split_append {separator : Char} {front : Text} (h : separator ∉ front)
    (back : Text) :
    Text.split separator (front ++ separator :: back) = front :: Text.split separator back := by
  apply splitWhere_run_append
  · intro c hc
    exact beq_false_of_ne (ne_of_mem_of_not_mem hc h)
  · exact beq_self_eq_true separator

namespace Line

/-- A line as it stands in the text, without what was read from it. -/
def bare (line : Line) : Line :=
  { text := line.text, terminator := line.terminator }

theorem ofBody_of_not_mem {body : Text} (h : '\n' ∉ body) : ofBody body = [{ text := body }] := by
  rw [ofBody, Text.split_of_not_mem h]
  rfl

theorem ofBody_append {front : Text} (h : '\n' ∉ front) (back : Text) :
    ofBody (front ++ '\n' :: back) = ofTerminated front :: ofBody back := by
  obtain ⟨piece, pieces, hback⟩ : ∃ piece pieces, Text.split '\n' back = piece :: pieces :=
    Text.exists_splitWhere _ back
  rw [ofBody, Text.split_append h, hback, ofBody, hback]
  rfl

theorem ofTerminated_render (piece : Text) : (ofTerminated piece).render = piece ++ ['\n'] := by
  unfold ofTerminated
  split
  · next hlast =>
      obtain ⟨front, rfl⟩ := List.getLast?_eq_some_iff.mp hlast
      simp [render]
  · rfl

/-- A line with a line feed at its end. A carriage return in front of that is part of the
terminator. -/
structure IsTerminated (line : Line) : Prop where
  text : '\n' ∉ line.text
  terminator : line.terminator = ['\n'] ∧ line.text.getLast? ≠ some '\r' ∨
    line.terminator = ['\r', '\n']

def IsBody : List Line → Prop
  | [] => False
  | [last] => '\n' ∉ last.text ∧ last.terminator = []
  | line :: next :: rest => line.IsTerminated ∧ IsBody (next :: rest)

theorem IsBody.ne_nil {lines : List Line} (h : IsBody lines) : lines ≠ [] := by
  rintro rfl
  exact h

theorem IsBody.oneLine {lines : List Line} (h : IsBody lines) :
    ∀ line ∈ lines, '\n' ∉ line.text := by
  induction lines with
  | nil => exact h.elim
  | cons line rest ih =>
      intro member hmember
      cases rest with
      | nil =>
          obtain rfl := List.mem_singleton.mp hmember
          exact h.1
      | cons next rest =>
          rcases List.mem_cons.mp hmember with rfl | hmember
          · exact h.1.text
          · exact ih h.2 member hmember

structure Replaces (after before : Line) : Prop where
  terminator : after.terminator = before.terminator
  oneLine : '\n' ∉ before.text → '\n' ∉ after.text
  carriageReturn : before.text.getLast? ≠ some '\r' → after.text.getLast? ≠ some '\r'

theorem IsTerminated.replace {before after : Line} (h : before.IsTerminated)
    (hreplaces : after.Replaces before) : after.IsTerminated := by
  refine ⟨hreplaces.oneLine h.text, ?_⟩
  rw [hreplaces.terminator]
  exact h.terminator.imp_left fun hfeed => ⟨hfeed.1, hreplaces.carriageReturn hfeed.2⟩

theorem IsBody.replace {lines others : List Line} (h : IsBody lines)
    (hreplaces : List.Forall₂ Replaces others lines) : IsBody others := by
  induction hreplaces with
  | nil => exact h
  | @cons after before others lines hafter hrest ih =>
      cases hrest with
      | nil =>
          refine ⟨hafter.oneLine h.1, ?_⟩
          rw [hafter.terminator]
          exact h.2
      | cons hnext hrest => exact ⟨h.1.replace hafter, ih h.2⟩

theorem IsBody.terminator {lines : List Line} (h : IsBody lines) :
    ∀ line ∈ lines,
      line.terminator = [] ∨ line.terminator = ['\n'] ∨ line.terminator = ['\r', '\n'] := by
  induction lines with
  | nil => exact h.elim
  | cons line rest ih =>
      intro member hmember
      cases rest with
      | nil =>
          obtain rfl := List.mem_singleton.mp hmember
          exact .inl h.2
      | cons next rest =>
          rcases List.mem_cons.mp hmember with rfl | hmember
          · exact .inr (h.1.terminator.imp_left And.left)
          · exact ih h.2 member hmember

theorem isBody_cons {line : Line} {rest : List Line} (hrest : rest ≠ []) :
    IsBody (line :: rest) ↔ line.IsTerminated ∧ IsBody rest := by
  cases rest with
  | nil => exact absurd rfl hrest
  | cons next rest => rfl

theorem ofTerminated_isTerminated {piece : Text} (h : '\n' ∉ piece) :
    (ofTerminated piece).IsTerminated := by
  unfold ofTerminated
  split
  · exact ⟨fun hmem => h (List.dropLast_subset _ hmem), .inr rfl⟩
  · next hlast => exact ⟨h, .inl ⟨rfl, hlast⟩⟩

theorem IsTerminated.eq_ofTerminated {line : Line} (h : line.IsTerminated) :
    ∃ piece, '\n' ∉ piece ∧ line.render = piece ++ ['\n'] ∧ ofTerminated piece = line.bare := by
  obtain ⟨text, terminator, _⟩ := line
  rcases h.terminator with ⟨hfeed, hlast⟩ | hfeed
  · dsimp only at hfeed hlast
    subst hfeed
    exact ⟨text, h.text, rfl, by rw [ofTerminated, if_neg hlast]; rfl⟩
  · dsimp only at hfeed
    subst hfeed
    refine ⟨text ++ ['\r'], ?_, by simp [render], ?_⟩
    · have htext : '\n' ∉ text := h.text
      simp [htext]
    · rw [ofTerminated, if_pos (by simp), List.dropLast_concat]
      rfl

/-- Bodies are built from their last line by putting lines in front. -/
theorem body_induction {motive : Text → Prop}
    (last : ∀ text, '\n' ∉ text → motive text)
    (line : ∀ front back, '\n' ∉ front → motive back → motive (front ++ '\n' :: back))
    (body : Text) : motive body := by
  induction hlength : body.length using Nat.strongRecOn generalizing body with
  | ind length ih =>
      subst hlength
      by_cases h : '\n' ∈ body
      · obtain ⟨front, back, rfl, hfront⟩ := List.eq_append_cons_of_mem h
        exact line front back hfront (ih back.length (by simp; omega) back rfl)
      · exact last body h

theorem ofBody_isBody (body : Text) : IsBody (ofBody body) := by
  induction body using body_induction with
  | last text h =>
      rw [ofBody_of_not_mem h]
      exact ⟨h, rfl⟩
  | line front back hfront ih =>
      rw [ofBody_append hfront, isBody_cons ih.ne_nil]
      exact ⟨ofTerminated_isTerminated hfront, ih⟩

theorem flatMap_render_ofBody (body : Text) : (ofBody body).flatMap render = body := by
  induction body using body_induction with
  | last text h =>
      rw [ofBody_of_not_mem h]
      simp [render]
  | line front back hfront ih =>
      rw [ofBody_append hfront, List.flatMap_cons, ofTerminated_render, ih]
      simp

theorem ofBody_flatMap_render {lines : List Line} (h : IsBody lines) :
    ofBody (lines.flatMap render) = lines.map bare := by
  induction lines with
  | nil => exact h.elim
  | cons line rest ih =>
      cases rest with
      | nil =>
          obtain ⟨htext, hterminator⟩ := h
          have hrender : [line].flatMap render = line.text := by simp [render, hterminator]
          rw [hrender, ofBody_of_not_mem htext]
          simp [bare, hterminator]
      | cons next rest =>
          obtain ⟨hline, hrest⟩ := h
          obtain ⟨piece, hpiece, hrender, hbare⟩ := hline.eq_ofTerminated
          rw [List.flatMap_cons, hrender, List.append_assoc, List.singleton_append,
            ofBody_append hpiece, ih hrest, hbare]
          rfl

theorem bare_of_mem_ofBody {body : Text} {line : Line} (h : line ∈ ofBody body) :
    line.bare = line := by
  have hbare := ofBody_flatMap_render (ofBody_isBody body)
  rw [flatMap_render_ofBody] at hbare
  rw [hbare] at h
  obtain ⟨other, -, rfl⟩ := List.mem_map.mp h
  rfl

theorem ofBody_injective {body other : Text} (h : ofBody body = ofBody other) : body = other := by
  rw [← flatMap_render_ofBody body, h, flatMap_render_ofBody]

/-- Lines that make up a body. All but the last end in a line feed, and a carriage return in front
of that is part of the terminator. -/
structure Divides (body : Text) (lines : List Line) : Prop where
  ne_nil : lines ≠ []
  render_eq : lines.flatMap render = body
  text : ∀ line ∈ lines, '\n' ∉ line.text
  inner : ∀ line ∈ lines.dropLast, line.terminator = ['\n'] ∨ line.terminator = ['\r', '\n']
  last : ∀ line ∈ lines.getLast?, line.terminator = []
  carriageReturn : ∀ line ∈ lines, line.terminator = ['\n'] → line.text.getLast? ≠ some '\r'

theorem IsBody.divides {lines : List Line} (h : IsBody lines) :
    Divides (lines.flatMap render) lines := by
  induction lines with
  | nil => exact h.elim
  | cons line rest ih =>
      cases rest with
      | nil => exact ⟨by simp, rfl, h.oneLine, by simp, by simpa using h.2, by simp [h.2]⟩
      | cons next rest =>
          have hrest := ih h.2
          refine ⟨by simp, rfl, h.oneLine, ?_, ?_, ?_⟩
          · rw [List.dropLast_cons_cons, List.forall_mem_cons]
            exact ⟨h.1.terminator.imp_left And.left, hrest.inner⟩
          · rw [List.getLast?_cons_cons]
            exact hrest.last
          · rw [List.forall_mem_cons]
            refine ⟨?_, hrest.carriageReturn⟩
            intro hfeed
            rcases h.1.terminator with ⟨-, hlast⟩ | hpair
            · exact hlast
            · rw [hpair] at hfeed
              cases hfeed

theorem Divides.isBody {body : Text} {lines : List Line} (h : Divides body lines) :
    IsBody lines := by
  induction lines generalizing body with
  | nil => exact absurd rfl h.ne_nil
  | cons line rest ih =>
      have htext := h.text line List.mem_cons_self
      cases rest with
      | nil => exact ⟨htext, h.last line rfl⟩
      | cons next rest =>
          have hinner := h.inner
          have hlast := h.last
          rw [List.dropLast_cons_cons, List.forall_mem_cons] at hinner
          rw [List.getLast?_cons_cons] at hlast
          have hfeed := h.carriageReturn line List.mem_cons_self
          refine ⟨⟨htext, hinner.1.imp_left fun hterminator => ⟨hterminator, hfeed hterminator⟩⟩,
            ih ⟨by simp, rfl, ?_, hinner.2, hlast, ?_⟩⟩
          · exact fun other hother => h.text other (List.mem_cons_of_mem line hother)
          · exact fun other hother => h.carriageReturn other (List.mem_cons_of_mem line hother)

/-- A body has one division into lines, and cutting it finds that one. -/
theorem ofBody_eq_iff_divides (body : Text) (lines : List Line) :
    ofBody body = lines ↔ Divides body lines ∧ ∀ line ∈ lines, line.bare = line := by
  constructor
  · rintro rfl
    have hdivides := (ofBody_isBody body).divides
    rw [flatMap_render_ofBody] at hdivides
    exact ⟨hdivides, fun line hline => bare_of_mem_ofBody hline⟩
  · rintro ⟨hdivides, hbare⟩
    calc ofBody body = ofBody (lines.flatMap render) := by rw [hdivides.render_eq]
      _ = lines.map bare := ofBody_flatMap_render hdivides.isBody
      _ = lines := by rw [List.map_congr_left hbare, List.map_id']

/-- The braces of one line, which is read on its own. -/
def braces (line : Line) : Text :=
  codeBraces (cells line.text)

theorem IsTerminated.cells_render {line : Line} (h : line.IsTerminated) (back : Text) :
    cells (line.render ++ back) =
      cells line.text ++ cellsFrom (Source.modeAfter .code line.text) line.terminator ++
        cells back := by
  obtain ⟨ending, hterminator, hjoins⟩ :
      ∃ ending, line.terminator = ending ++ ['\n'] ∧ Joins line.text ending := by
    rcases h.terminator with ⟨hfeed, -⟩ | hfeed
    · exact ⟨[], hfeed, .of_head _ (by simp)⟩
    · exact ⟨['\r'], hfeed, .cons line.text (by decide) []⟩
  have hrender : line.render ++ back = line.text ++ ending ++ '\n' :: back := by
    simp [render, hterminator]
  rw [hrender, hterminator, cells, cellsFrom_lineFeed, cellsFrom_append .code hjoins,
    cellsFrom_lineFeed]
  simp [cells]

theorem IsTerminated.codeBraces {line : Line} (h : line.IsTerminated) (back : Text) :
    SchemaCase.codeBraces (cells (line.render ++ back)) =
      line.braces ++ SchemaCase.codeBraces (cells back) := by
  have hterminator : ∀ c ∈ line.terminator, c ≠ '\x7b' ∧ c ≠ '\x7d' := by
    rcases h.terminator with ⟨hfeed, -⟩ | hfeed <;> simp [hfeed]
  rw [h.cells_render, codeBraces_append, codeBraces_append,
    codeBraces_cellsFrom_eq_nil _ hterminator, List.append_nil]
  rfl

theorem IsTerminated.modeAfter {line : Line} (h : line.IsTerminated) (back : Text) :
    Source.modeAfter .code (line.render ++ back) = Source.modeAfter .code back := by
  rcases h.terminator with ⟨hfeed, -⟩ | hfeed
  · have hrender : line.render ++ back = line.text ++ '\n' :: back := by simp [render, hfeed]
    rw [hrender, modeAfter_append_lineFeed]
  · have hrender : line.render ++ back = line.text ++ ['\r'] ++ '\n' :: back := by
      simp [render, hfeed]
    rw [hrender, modeAfter_append_lineFeed]

theorem codeBraces_body {lines : List Line} (h : IsBody lines) :
    SchemaCase.codeBraces (cells (lines.flatMap render)) = lines.flatMap braces := by
  induction lines with
  | nil => exact h.elim
  | cons line rest ih =>
      cases rest with
      | nil => simp [render, h.2, braces]
      | cons next rest =>
          rw [List.flatMap_cons, h.1.codeBraces, ih h.2]
          rfl

end Line

end SchemaCase
