import SchemaCase.Proofs.Schema.Header
import SchemaCase.Proofs.Schema.Lines

/-! The grammar of schema texts. A text is read if and only if its cells can be cut into text
between blocks and blocks; there is at most one such cut, and it is the one that reading makes. -/

namespace SchemaCase

open Source

instance decidableEqExcept {ε α : Type} [DecidableEq ε] [DecidableEq α] :
    DecidableEq (Except ε α)
  | .ok first, .ok second => decidable_of_iff (first = second) (by simp)
  | .error first, .error second => decidable_of_iff (first = second) (by simp)
  | .ok _, .error _ => isFalse nofun
  | .error _, .ok _ => isFalse nofun

def StartsLine (before : Text) : Prop :=
  before = [] ∨ before.getLast? = some '\n' ∨ before = [byteOrderMark]

instance : DecidablePred StartsLine :=
  fun _ => inferInstanceAs (Decidable (_ ∨ _ ∨ _))

theorem startsLine_concat (before : Text) (c : Char) :
    StartsLine (before ++ [c]) ↔ c = '\n' ∨ before = [] ∧ c = byteOrderMark := by
  simp [StartsLine, List.append_eq_cons_iff]

theorem decide_startsLine_concat (before : Text) (c : Char) :
    decide (StartsLine (before ++ [c])) = endsLine before.length c := by
  rw [Bool.eq_iff_iff, decide_eq_true_eq, startsLine_concat]
  simp [endsLine]

theorem not_startsLine_brace (before : Text) : ¬StartsLine (before ++ ['\x7d']) := by
  rw [startsLine_concat]
  rintro (h | ⟨-, h⟩)
  · exact absurd h (by decide)
  · exact absurd h (by decide)

def ScannedBehind (before : Text) (cells : List Cell) : Prop :=
  ∃ mode text, cells = cellsFrom mode text ∧ (StartsLine before → mode = .code)

theorem ScannedBehind.tail {before : Text} {cell : Cell} {rest : List Cell}
    (h : ScannedBehind before (cell :: rest)) :
    ScannedBehind (before ++ [cell.char]) rest := by
  obtain ⟨mode, text, hcells, hmode⟩ := h
  cases text with
  | nil => cases hcells
  | cons c text =>
      rw [cellsFrom_cons] at hcells
      obtain ⟨rfl, rfl⟩ := List.cons.inj hcells
      refine ⟨_, text, rfl, fun hstart => ?_⟩
      rcases (startsLine_concat before c).mp hstart with rfl | ⟨rfl, rfl⟩
      · rfl
      · rw [hmode (.inl rfl), Mode.step_code_plain (by decide) (by decide)]

theorem ScannedBehind.append {before : Text} {front back : List Cell}
    (h : ScannedBehind before (front ++ back)) :
    ScannedBehind (before ++ textOf front) back := by
  induction front generalizing before with
  | nil => simpa using h
  | cons cell front ih => simpa using ih h.tail

theorem ScannedBehind.eq_cells {before : Text} {cells : List Cell}
    (h : ScannedBehind before cells) (hstart : StartsLine before) :
    cells = Source.cells (textOf cells) := by
  obtain ⟨mode, text, rfl, hmode⟩ := h
  rw [hmode hstart, textOf_cellsFrom]
  rfl

/-- A part of a schema text: text between blocks, or a block. -/
inductive Piece
  | passthrough (text : Text)
  | block (header : Header) (body : Text)
  deriving DecidableEq, Repr

namespace Piece

def render : Piece → Text
  | .passthrough text => text
  | .block header body => header.render ++ body ++ ['\x7d']

def segment (text : Text) (offset : Nat) : Piece → Segment
  | .passthrough content => .passthrough content
  | .block header body =>
      .block { header with
        kind := .ofKeyword header.keyword
        lines := Line.ofBody body
        lineNumber := (positionAt text (offset + header.indent.length)).line }

def segments (text : Text) (offset : Nat) : List Piece → List Segment
  | [] => []
  | piece :: rest =>
      piece.segment text offset :: segments text (offset + piece.render.length) rest

def document (text : Text) (pieces : List Piece) : Document :=
  ⟨segments text 0 pieces⟩

/-- The last piece is complete: nothing that follows becomes a part of it. -/
def EndInBlock (pieces : List Piece) : Prop :=
  ∀ text, pieces.getLast? ≠ some (.passthrough text)

theorem EndInBlock.ne_nil {text : Text} {pieces : List Piece}
    (h : EndInBlock (.passthrough text :: pieces)) : pieces ≠ [] := by
  rintro rfl
  exact h text rfl

theorem EndInBlock.tail {piece : Piece} {pieces : List Piece}
    (h : EndInBlock (piece :: pieces)) : EndInBlock pieces := by
  intro text hlast
  exact h text (by simp [List.getLast?_cons, hlast])

theorem EndInBlock.append_block {pieces : List Piece} (h : EndInBlock pieces)
    (front : List Piece) (header : Header) (body : Text) :
    EndInBlock (front ++ .block header body :: pieces) := by
  intro text hlast
  cases hpieces : pieces.getLast? with
  | none => simp [List.getLast?_cons, hpieces] at hlast
  | some last =>
      simp only [List.getLast?_append, List.getLast?_cons, hpieces, Option.getD_some,
        Option.some_or, Option.some.injEq] at hlast
      exact h text (hlast ▸ hpieces)

end Piece

/-- `Decomposes before cells pieces`: behind the text `before`, the cells are those of `pieces`
one after the other. Two pieces of text never follow each other. A block starts a line, its header
is looked for in the masked text, and braces count where they are code. -/
inductive Decomposes : Text → List Cell → List Piece → Prop
  | nil {before : Text} : Decomposes before [] []
  | passthrough {before : Text} {content rest : List Cell} {pieces : List Piece}
      (nonempty : content ≠ [])
      (noBrace : ∀ cell ∈ content, cell.isBrace = false)
      (separate : ∀ text, pieces.head? ≠ some (.passthrough text))
      (tail : Decomposes (before ++ textOf content) rest pieces) :
      Decomposes before (content ++ rest) (.passthrough (textOf content) :: pieces)
  | block {before : Text} {header : Header} {opening body rest : List Cell} {closing : Cell}
      {pieces : List Piece}
      (lineStart : StartsLine before)
      (wellFormed : header.WellFormed)
      (masked : opening.map Cell.visible = header.render)
      (balanced : Balanced 0 (codeBraces body))
      (closes : closing.region = .code ∧ closing.char = '\x7d')
      (tail : Decomposes (before ++ textOf (opening ++ body ++ [closing])) rest pieces) :
      Decomposes before (opening ++ body ++ [closing] ++ rest)
        (.block header (textOf body) :: pieces)

def Decomposition (text : Text) (pieces : List Piece) : Prop :=
  Decomposes [] (cells text) pieces

/-- The same grammar with every piece read on its own. -/
inductive Arranged : Text → List Piece → Prop
  | nil {before : Text} : Arranged before []
  | passthrough {before text : Text} {pieces : List Piece}
      (nonempty : text ≠ [])
      (noBrace : ∀ cell ∈ cells text, cell.isBrace = false)
      (separate : ∀ other, pieces.head? ≠ some (.passthrough other))
      (tail : Arranged (before ++ text) pieces) :
      Arranged before (.passthrough text :: pieces)
  | block {before : Text} {header : Header} {body : Text} {pieces : List Piece}
      (lineStart : StartsLine before)
      (wellFormed : header.WellFormed)
      (balanced : Balanced 0 (codeBraces (cells body)))
      (closed : modeAfter .code body = .code)
      (tail : Arranged (before ++ (header.render ++ body ++ ['\x7d'])) pieces) :
      Arranged before (.block header body :: pieces)

theorem Header.read?_nil : Header.read? [] = none := rfl

/-- A line that starts in a gap and ends before the next brace opens no block. -/
theorem Header.read?_gap {before : Text} {content rest : List Cell}
    (hscanned : ScannedBehind before (content ++ rest)) (hstart : StartsLine before)
    (hne : content ≠ []) (hbrace : ∀ cell ∈ content, cell.isBrace = false)
    (hrest : rest = [] ∨ StartsLine (before ++ textOf content)) :
    Header.read? (content ++ rest) = none := by
  rw [Option.eq_none_iff_forall_ne_some]
  rintro ⟨header, tail⟩ hread
  have hcells := hscanned.eq_cells hstart
  rw [hcells] at hread
  obtain ⟨hheader, htext, htail⟩ := Header.read?_cells hread
  rw [htext, hheader.plain_render.cells_append, ← htail] at hcells
  -- the brace of the header lies behind the gap, so the gap is part of the header
  obtain ⟨shown, hshown⟩ := header.render_eq_concat
  have hinside : ∀ extra, content ≠ codeCells header.render ++ extra := by
    rintro extra rfl
    have hfound := hbrace ⟨'\x7b', .code⟩ (by simp [hshown, codeCells])
    exact absurd hfound (by decide)
  rcases List.append_eq_append_iff.mp hcells with ⟨extra, hrender, hback⟩ | ⟨extra, hfront, -⟩
  · have hmem : ∀ c ∈ textOf content, c ∈ header.render := by
      intro c hc
      rw [← textOf_codeCells header.render, hrender, textOf_append]
      exact List.mem_append_left _ hc
    rcases hrest with rfl | hline
    · obtain ⟨rfl, -⟩ := List.append_eq_nil_iff.mp hback.symm
      exact hinside [] (by simpa using hrender.symm)
    · obtain ⟨front, last, rfl⟩ := (List.eq_nil_or_concat content).resolve_left hne
      have hlast : last.char ∈ header.render := hmem _ (by simp)
      have hline : StartsLine (before ++ textOf front ++ [last.char]) := by
        simpa [List.concat_eq_append] using hline
      rcases (startsLine_concat _ _).mp hline with hfeed | ⟨-, hmark⟩
      · rw [hfeed] at hlast
        exact hheader.not_mem_render (by decide) (by decide +kernel) (by decide) hlast
      · rw [hmark] at hlast
        exact hheader.not_mem_render (by decide) (by decide +kernel) (by decide) hlast
  · exact hinside extra hfront

theorem splitGap_content {before : Text} {content rest : List Cell}
    (hscanned : ScannedBehind before (content ++ rest))
    (hbrace : ∀ cell ∈ content, cell.isBrace = false)
    (hrest : rest = [] ∨
      StartsLine (before ++ textOf content) ∧ (Header.read? rest).isSome) :
    splitGap before.length (decide (StartsLine before)) (content ++ rest) = (content, rest) := by
  induction content generalizing before with
  | nil =>
      rcases hrest with rfl | ⟨hstart, hread⟩
      · rfl
      · cases rest with
        | nil => rfl
        | cons cell rest =>
            rw [textOf_nil, List.append_nil] at hstart
            simp [splitGap, hstart, hread]
  | cons cell content ih =>
      have hnone : (decide (StartsLine before) &&
          (Header.read? (cell :: (content ++ rest))).isSome) = false := by
        by_cases hstart : StartsLine before
        · rw [← List.cons_append, Header.read?_gap hscanned hstart (List.cons_ne_nil _ _) hbrace
            (hrest.imp_right And.left)]
          simp
        · simp [hstart]
      have hrest' : rest = [] ∨ StartsLine (before ++ [cell.char] ++ textOf content) ∧
          (Header.read? rest).isSome := by
        simpa using hrest
      have htail := ih hscanned.tail
        (fun other hother => hbrace other (List.mem_cons_of_mem _ hother)) hrest'
      rw [List.length_append, List.length_singleton, decide_startsLine_concat] at htail
      rw [List.cons_append, splitGap, hnone, htail]
      rfl

theorem splitGap_sound {before : Text} {cells gap tail : List Cell}
    (h : splitGap before.length (decide (StartsLine before)) cells = (gap, tail)) :
    cells = gap ++ tail ∧
      (tail = [] ∨ StartsLine (before ++ textOf gap) ∧ (Header.read? tail).isSome) := by
  induction cells generalizing before gap with
  | nil =>
      cases h
      exact ⟨rfl, .inl rfl⟩
  | cons cell rest ih =>
      rw [splitGap] at h
      split at h
      · next hread =>
          cases h
          simp only [Bool.and_eq_true, decide_eq_true_eq] at hread
          exact ⟨rfl, .inr (by simpa using hread)⟩
      · rw [← decide_startsLine_concat] at h
        cases hnext : splitGap (before.length + 1)
            (decide (StartsLine (before ++ [cell.char]))) rest with
        | mk inner tail' =>
            rw [hnext] at h
            cases h
            have hlater : splitGap (before ++ [cell.char]).length
                (decide (StartsLine (before ++ [cell.char]))) rest = (inner, tail) := by
              simpa using hnext
            have hinner := ih hlater
            refine ⟨by rw [hinner.1]; rfl, ?_⟩
            simpa using hinner.2

theorem segmentsFrom_eq (text : Text) (offset : Nat) (lineStart : Bool) (cells : List Cell) :
    segmentsFrom text offset lineStart cells =
      match (splitGap offset lineStart cells).1.findIdx? Cell.isBrace with
      | some index => .error (.strayBrace text (offset + index))
      | none =>
          match Header.read? (splitGap offset lineStart cells).2 with
          | none => .ok (Segment.ofGap (splitGap offset lineStart cells).1)
          | some (header, rest) =>
              match splitBody 0 rest with
              | none =>
                  .error (.unclosedBlock text (offset + (splitGap offset lineStart cells).1.length +
                    header.indent.length) header.keyword header.name)
              | some (body, tail) =>
                  (segmentsFrom text (offset + (splitGap offset lineStart cells).1.length +
                    header.render.length + body.length + 1) false tail).map fun segments =>
                      Segment.ofGap (splitGap offset lineStart cells).1 ++
                        Piece.segment text (offset + (splitGap offset lineStart cells).1.length)
                          (.block header (textOf body)) :: segments := by
  rw [segmentsFrom]
  cases (splitGap offset lineStart cells).1.findIdx? Cell.isBrace with
  | some index => rfl
  | none =>
      dsimp only
      split
      · next hread => simp only [hread]
      · next header rest hread =>
          simp only [hread]
          split
          · next hbody => simp only [hbody]
          · next body tail hbody =>
              simp only [hbody]
              generalize segmentsFrom text _ false tail = result
              cases result <;> rfl

theorem segmentsFrom_nil (text : Text) (offset : Nat) (lineStart : Bool) :
    segmentsFrom text offset lineStart [] = .ok [] := by
  rw [segmentsFrom_eq]
  rfl

theorem segmentsFrom_block {text : Text} {offset : Nat} {cells rest body tail : List Cell}
    {header : Header} (hread : Header.read? cells = some (header, rest))
    (hbody : splitBody 0 rest = some (body, tail)) :
    segmentsFrom text offset true cells =
      (segmentsFrom text (offset + header.render.length + body.length + 1) false tail).map
        (Piece.segment text offset (.block header (textOf body)) :: ·) := by
  have hgap : splitGap offset true cells = ([], cells) := by
    cases cells with
    | nil => rfl
    | cons cell cells => simp [splitGap, hread]
  rw [segmentsFrom_eq]
  simp [hgap, hread, hbody, Segment.ofGap]

theorem segmentsFrom_gap {text : Text} {offset : Nat} {lineStart lineStart' : Bool}
    {cells gap tail : List Cell} (hgap : splitGap offset lineStart cells = (gap, tail))
    (hne : gap ≠ []) (hbrace : ∀ cell ∈ gap, cell.isBrace = false)
    (htail : splitGap (offset + gap.length) lineStart' tail = ([], tail)) :
    segmentsFrom text offset lineStart cells =
      (segmentsFrom text (offset + gap.length) lineStart' tail).map
        (.passthrough (textOf gap) :: ·) := by
  have hnone : gap.findIdx? Cell.isBrace = none := List.findIdx?_eq_none_iff.mpr hbrace
  have hsegments : Segment.ofGap gap = [.passthrough (textOf gap)] := by
    simp [Segment.ofGap, hne]
  rw [segmentsFrom_eq text offset, segmentsFrom_eq text (offset + gap.length)]
  simp only [hgap, hnone, htail, List.findIdx?_nil, hsegments]
  cases Header.read? tail with
  | none => rfl
  | some found =>
      obtain ⟨header, rest⟩ := found
      cases hbody : splitBody 0 rest with
      | none => simp [hbody, Except.map]
      | some split =>
          obtain ⟨body, behind⟩ := split
          simp only [hbody, List.length_nil, Nat.add_zero]
          generalize segmentsFrom text _ false behind = result
          cases result <;> rfl

theorem Decomposes.read?_isSome {before : Text} {cells : List Cell} {pieces : List Piece}
    (h : Decomposes before cells pieces) {rest : List Cell}
    (hscanned : ScannedBehind before (cells ++ rest))
    (hblock : ∀ text, pieces.head? ≠ some (.passthrough text)) :
    pieces = [] ∧ cells = [] ∨ StartsLine before ∧ (Header.read? (cells ++ rest)).isSome := by
  cases h with
  | nil => exact .inl ⟨rfl, rfl⟩
  | @passthrough _ content _ pieces nonempty noBrace separate tail =>
      exact absurd rfl (hblock (textOf content))
  | @block _ header opening body _ closing pieces lineStart wellFormed masked balanced closes
      tail =>
      right
      have hcells := (hscanned.eq_cells lineStart).symm
      simp only [List.append_assoc] at hcells ⊢
      obtain ⟨rfl, -⟩ := wellFormed.eq_codeCells hcells masked
      exact ⟨lineStart, by rw [Header.read?_codeCells wellFormed]; rfl⟩

/-- The pieces of a cut are read one after the other, and then what follows is read. -/
theorem segmentsFrom_append {before : Text} {cells : List Cell} {pieces : List Piece}
    (h : Decomposes before cells pieces) (text : Text) {rest : List Cell}
    (hscanned : ScannedBehind before (cells ++ rest))
    (hend : rest = [] ∨ Piece.EndInBlock pieces) :
    segmentsFrom text before.length (decide (StartsLine before)) (cells ++ rest) =
      (segmentsFrom text (before ++ textOf cells).length
        (decide (StartsLine (before ++ textOf cells))) rest).map
          (Piece.segments text before.length pieces ++ ·) := by
  induction h with
  | @nil before =>
      rw [textOf_nil, List.append_nil, List.nil_append]
      cases segmentsFrom text before.length (decide (StartsLine before)) rest <;> rfl
  | @passthrough before content cells pieces nonempty noBrace separate tail ih =>
      rw [List.append_assoc] at hscanned
      have hhead : cells ++ rest = [] ∨ StartsLine (before ++ textOf content) ∧
          (Header.read? (cells ++ rest)).isSome := by
        rcases tail.read?_isSome hscanned.append separate with ⟨rfl, rfl⟩ | hhead
        · rcases hend with rfl | hend
          · exact .inl rfl
          · exact absurd rfl hend.ne_nil
        · exact .inr hhead
      have htail : splitGap (before.length + content.length)
          (decide (StartsLine (before ++ textOf content))) (cells ++ rest) =
            ([], cells ++ rest) := by
        have hempty : splitGap (before ++ textOf content).length
            (decide (StartsLine (before ++ textOf content))) ([] ++ (cells ++ rest)) =
              ([], cells ++ rest) :=
          splitGap_content hscanned.append (by simp) (by simpa using hhead)
        simpa using hempty
      have hsegments := ih hscanned.append (hend.imp_right Piece.EndInBlock.tail)
      rw [List.length_append, length_textOf] at hsegments
      rw [List.append_assoc,
        segmentsFrom_gap (splitGap_content hscanned noBrace hhead) nonempty noBrace htail,
        hsegments, textOf_append, ← List.append_assoc]
      simp only [Piece.segments, Piece.segment, Piece.render, length_textOf]
      generalize segmentsFrom text _ _ rest = result
      cases result <;> rfl
  | @block before header opening body cells closing pieces lineStart wellFormed masked balanced
      closes tail ih =>
      rw [List.append_assoc] at hscanned
      have hclosing : closing.visible = '\x7d' := (closing.visible_eq_iff (by decide)).mpr closes
      have hcells := (hscanned.eq_cells lineStart).symm
      simp only [List.append_assoc] at hcells
      obtain ⟨rfl, -⟩ := wellFormed.eq_codeCells hcells masked
      have hread : Header.read? (codeCells header.render ++ body ++ [closing] ++ cells ++ rest) =
          some (header, body ++ closing :: (cells ++ rest)) := by
        simpa using Header.read?_codeCells wellFormed (body ++ closing :: (cells ++ rest))
      have hsegments := ih hscanned.append (hend.imp_right Piece.EndInBlock.tail)
      have hstart : decide (StartsLine (before ++
          textOf (codeCells header.render ++ body ++ [closing]))) = false := by
        rw [decide_eq_false_iff_not, textOf_append, textOf_cons, closes.2, textOf_nil,
          ← List.append_assoc]
        exact not_startsLine_brace _
      have hlength : (before ++ textOf (codeCells header.render ++ body ++ [closing])).length =
          before.length + header.render.length + body.length + 1 := by
        simp [Nat.add_assoc]
      rw [hstart, hlength] at hsegments
      rw [decide_eq_true lineStart,
        segmentsFrom_block hread (splitBody_complete balanced hclosing (cells ++ rest)), hsegments,
        textOf_append _ cells, ← List.append_assoc]
      simp only [Piece.segments, Piece.render, List.length_append, List.length_singleton,
        length_textOf, ← Nat.add_assoc]
      generalize segmentsFrom text _ _ rest = result
      cases result <;> rfl

theorem modeAfter_of_startsLine {before text : Text} (hne : text ≠ [])
    (h : StartsLine (before ++ text)) :
    modeAfter .code text = .code ∧ ∀ back, Joins text back := by
  obtain ⟨front, last, rfl⟩ := (List.eq_nil_or_concat text).resolve_left hne
  rw [List.concat_eq_append] at h ⊢
  rw [← List.append_assoc] at h
  rcases (startsLine_concat _ _).mp h with rfl | ⟨hfront, rfl⟩
  · exact ⟨modeAfter_lineFeed .code front, .concat front (by decide)⟩
  · obtain ⟨-, rfl⟩ := List.append_eq_nil_iff.mp hfront
    exact ⟨by decide, .concat [] (by decide)⟩

theorem cells_append_of_startsLine {before text : Text} (hne : text ≠ [])
    (h : StartsLine (before ++ text)) (rest : Text) :
    cells (text ++ rest) = cells text ++ cells rest := by
  obtain ⟨hmode, hjoins⟩ := modeAfter_of_startsLine hne h
  rw [cells, cellsFrom_append .code (hjoins rest), hmode]
  rfl

theorem Header.WellFormed.cells_block {header : Header} (h : header.WellFormed) {body : Text}
    (hclosed : modeAfter .code body = .code) (rest : Text) :
    cells (header.render ++ body ++ ['\x7d'] ++ rest) =
      codeCells header.render ++ cells body ++ [⟨'\x7d', .code⟩] ++ cells rest := by
  have hclosing : cells ('\x7d' :: rest) = ⟨'\x7d', .code⟩ :: cells rest := rfl
  simp only [List.append_assoc, List.singleton_append]
  rw [h.plain_render.cells_append, cells, cellsFrom_append .code (.cons body (by decide) rest),
    hclosed, ← hclosing]
  rfl

theorem Arranged.startsLine {before : Text} {pieces : List Piece} (h : Arranged before pieces)
    (hblock : ∀ text, pieces.head? ≠ some (.passthrough text)) :
    pieces = [] ∨ StartsLine before := by
  cases h with
  | nil => exact .inl rfl
  | passthrough nonempty noBrace separate tail => exact absurd rfl (hblock _)
  | block lineStart => exact .inr lineStart

theorem Arranged.block_of_mem {before : Text} {pieces : List Piece} (h : Arranged before pieces)
    {header : Header} {body : Text} (hmem : .block header body ∈ pieces) :
    header.WellFormed ∧ modeAfter .code body = .code := by
  induction h with
  | nil => cases hmem
  | passthrough nonempty noBrace separate tail ih =>
      rcases List.mem_cons.mp hmem with hhead | hmem
      · cases hhead
      · exact ih hmem
  | block lineStart wellFormed balanced closed tail ih =>
      rcases List.mem_cons.mp hmem with hhead | hmem
      · cases hhead
        exact ⟨wellFormed, closed⟩
      · exact ih hmem

theorem Arranged.cells_append {before : Text} {pieces : List Piece} (h : Arranged before pieces)
    {rest : Text} (hend : rest = [] ∨ Piece.EndInBlock pieces) :
    cells (pieces.flatMap Piece.render ++ rest) =
      pieces.flatMap (fun piece => cells piece.render) ++ cells rest := by
  induction h with
  | nil => rfl
  | @passthrough before text pieces nonempty noBrace separate tail ih =>
      have hcells : cells (text ++ (pieces.flatMap Piece.render ++ rest)) =
          cells text ++ cells (pieces.flatMap Piece.render ++ rest) := by
        rcases tail.startsLine separate with rfl | hstart
        · rcases hend with rfl | hend
          · simp [cells]
          · exact absurd rfl hend.ne_nil
        · exact cells_append_of_startsLine nonempty hstart _
      rw [List.flatMap_cons, List.append_assoc, Piece.render, hcells,
        ih (hend.imp_right Piece.EndInBlock.tail), List.flatMap_cons, List.append_assoc]
      rfl
  | @block before header body pieces lineStart wellFormed balanced closed tail ih =>
      have hown := wellFormed.cells_block closed []
      rw [List.append_nil] at hown
      rw [List.flatMap_cons, List.append_assoc, Piece.render, wellFormed.cells_block closed,
        ih (hend.imp_right Piece.EndInBlock.tail), List.flatMap_cons, Piece.render, hown]
      simp [cells]

theorem Arranged.decomposes {before : Text} {pieces : List Piece} (h : Arranged before pieces) :
    Decomposes before (cells (pieces.flatMap Piece.render)) pieces := by
  induction h with
  | nil => exact .nil
  | @passthrough before text pieces nonempty noBrace separate tail ih =>
      have hcells : cells (text ++ pieces.flatMap Piece.render) =
          cells text ++ cells (pieces.flatMap Piece.render) := by
        rcases tail.startsLine separate with rfl | hstart
        · simp [cells]
        · exact cells_append_of_startsLine nonempty hstart _
      rw [List.flatMap_cons, Piece.render, hcells]
      have htext : textOf (cells text) = text := textOf_cellsFrom .code text
      have hne : cells text ≠ [] := by
        intro hnil
        rw [hnil] at htext
        exact nonempty htext.symm
      have hpiece := Decomposes.passthrough hne noBrace separate (htext.symm ▸ ih)
      rwa [htext] at hpiece
  | @block before header body pieces lineStart wellFormed balanced closed tail ih =>
      have htext : textOf (cells body) = body := textOf_cellsFrom .code body
      rw [List.flatMap_cons, Piece.render, wellFormed.cells_block closed]
      have htail : Decomposes
          (before ++ textOf (codeCells header.render ++ cells body ++ [⟨'\x7d', .code⟩]))
          (cells (pieces.flatMap Piece.render)) pieces := by
        simpa [htext] using ih
      have hpiece := Decomposes.block lineStart wellFormed (map_visible_codeCells _) balanced
        ⟨rfl, rfl⟩ htail
      rwa [htext] at hpiece

/-! Every reading is a cut. -/

theorem splitBody_cells {text : Text} {body tail : List Cell}
    (h : splitBody 0 (cells text) = some (body, tail)) :
    text = textOf body ++ '\x7d' :: textOf tail ∧ tail = cells (textOf tail) ∧
      Balanced 0 (codeBraces (cells (textOf body))) ∧ modeAfter .code (textOf body) = .code := by
  obtain ⟨closing, hcells, hclosing, hbalanced⟩ := splitBody_sound h
  have hchar := ((closing.visible_eq_iff (by decide)).mp hclosing).2
  obtain ⟨hbody, hmode, htail⟩ := cellsFrom_brace hcells (by simp [Cell.isBrace, hclosing])
  refine ⟨?_, htail, ?_, hmode⟩
  · rw [← textOf_cellsFrom .code text, ← hchar, ← textOf_cons, ← textOf_append, ← hcells]
    rfl
  · rw [cells, ← hbody]
    exact hbalanced

theorem Arranged.gap {before text : Text} {gap tail : List Cell} {pieces : List Piece}
    (hcells : cells text = gap ++ tail)
    (hbrace : ∀ cell ∈ gap, cell.isBrace = false)
    (hstart : tail = [] ∨ StartsLine (before ++ textOf gap))
    (hblock : ∀ other, pieces.head? ≠ some (.passthrough other))
    (hpieces : Arranged (before ++ textOf gap) pieces) :
    ∃ front, Arranged before (front ++ pieces) ∧ front.flatMap Piece.render = textOf gap ∧
      ∀ whole offset, Piece.segments whole offset (front ++ pieces) =
        Segment.ofGap gap ++ Piece.segments whole (offset + gap.length) pieces := by
  by_cases hgap : gap = []
  · subst hgap
    exact ⟨[], by simpa using hpieces, rfl, by simp [Segment.ofGap]⟩
  · have hne : textOf gap ≠ [] := by
      intro hnil
      exact hgap (List.map_eq_nil_iff.mp hnil)
    have hjoins : Joins (textOf gap) (textOf tail) := by
      rcases hstart with rfl | hstart
      · exact .of_head _ (by simp)
      · exact (modeAfter_of_startsLine hne hstart).2 _
    have hown : gap = cells (textOf gap) := (cellsFrom_eq_append hcells hjoins).1
    refine ⟨[.passthrough (textOf gap)], ?_, by simp [Piece.render], ?_⟩
    · exact .passthrough hne (hown ▸ hbrace) hblock hpieces
    · intro whole offset
      simp [Piece.segments, Piece.segment, Piece.render, Segment.ofGap, hgap]

/-- Why reading stops behind the text `before`: a brace in front of the next header, or a block
without an end. -/
inductive ReadingStop (text before suffix : Text) : ParseError → Prop
  | stray {front back tail : List Cell} {brace : Cell}
      (gap : splitGap before.length (decide (StartsLine before)) (cells suffix) =
        (front ++ brace :: back, tail))
      (noBrace : ∀ cell ∈ front, cell.isBrace = false)
      (isBrace : brace.isBrace) :
      ReadingStop text before suffix (.strayBrace text (before.length + front.length))
  | unclosed {gap : List Cell} {header : Header} {behind : Text}
      (split : cells suffix = gap ++ cells (header.render ++ behind))
      (noBrace : ∀ cell ∈ gap, cell.isBrace = false)
      (lineStart : StartsLine (before ++ textOf gap))
      (wellFormed : header.WellFormed)
      (endless : splitBody 0 (cells behind) = none) :
      ReadingStop text before suffix
        (.unclosedBlock text (before.length + gap.length + header.indent.length) header.keyword
          header.name)

/-- What one step of reading finds behind the text `before`, and what the reading then gives. -/
inductive ReadingStep (text before suffix : Text) : Except ParseError (List Segment) → Prop
  | stop {error : ParseError} (reason : ReadingStop text before suffix error) :
      ReadingStep text before suffix (.error error)
  | finished (noBrace : ∀ cell ∈ cells suffix, cell.isBrace = false) :
      ReadingStep text before suffix (.ok (Segment.ofGap (cells suffix)))
  | block {gap : List Cell} {header : Header} {body behind : Text}
      (split : cells suffix = gap ++ cells (header.render ++ body ++ ['\x7d'] ++ behind))
      (noBrace : ∀ cell ∈ gap, cell.isBrace = false)
      (lineStart : StartsLine (before ++ textOf gap))
      (wellFormed : header.WellFormed)
      (balanced : Balanced 0 (codeBraces (cells body)))
      (closed : modeAfter .code body = .code) :
      ReadingStep text before suffix
        ((segmentsFrom text (before ++ textOf gap ++ (header.render ++ body ++ ['\x7d'])).length
          (decide (StartsLine (before ++ textOf gap ++ (header.render ++ body ++ ['\x7d']))))
          (cells behind)).map fun later => Segment.ofGap gap ++
            Piece.segment text (before.length + gap.length) (.block header body) :: later)

theorem readingStep (text before suffix : Text) :
    ReadingStep text before suffix
      (segmentsFrom text before.length (decide (StartsLine before)) (cells suffix)) := by
  cases hsplit : splitGap before.length (decide (StartsLine before)) (cells suffix) with
  | mk gap tail =>
  obtain ⟨hcells, hstart⟩ := splitGap_sound hsplit
  rw [segmentsFrom_eq, hsplit]
  cases hfind : gap.findIdx? Cell.isBrace with
  | some index =>
      obtain ⟨hindex, hbrace, hfront⟩ := List.findIdx?_eq_some_iff_getElem.mp hfind
      have hgap := (List.take_append_drop index gap).symm
      rw [List.drop_eq_getElem_cons hindex] at hgap
      have hstop : ReadingStop text before suffix
          (.strayBrace text (before.length + (gap.take index).length)) :=
        .stray (hgap ▸ hsplit) ?_ hbrace
      · simpa [Nat.min_eq_left (Nat.le_of_lt hindex)] using ReadingStep.stop hstop
      · intro cell hcell
        obtain ⟨other, hother, rfl⟩ := List.mem_take_iff_getElem.mp hcell
        simpa using hfront other (by omega)
  | none =>
  have hnone := List.findIdx?_eq_none_iff.mp hfind
  cases hread : Header.read? tail with
  | none =>
      obtain rfl : tail = [] := by simpa [hread] using hstart
      rw [List.append_nil] at hcells
      subst hcells
      exact .finished hnone
  | some found =>
  obtain ⟨header, rest⟩ := found
  have hline : StartsLine (before ++ textOf gap) := by
    rcases hstart with rfl | hstart
    · simp [Header.read?_nil] at hread
    · exact hstart.1
  -- from the start of its line on, a block is read as if nothing stood in front of it
  have hscanned : ScannedBehind before (gap ++ tail) :=
    ⟨.code, suffix, hcells.symm, fun _ => rfl⟩
  have htail := hscanned.append.eq_cells hline
  rw [htail] at hread
  obtain ⟨hheader, htext, hrest⟩ := Header.read?_cells hread
  rw [htext] at htail
  dsimp only
  cases hbody : splitBody 0 rest with
  | none =>
      rw [hrest] at hbody
      exact .stop (.unclosed (htail ▸ hcells) hnone hline hheader hbody)
  | some split =>
      obtain ⟨body, behind⟩ := split
      rw [hrest] at hbody
      obtain ⟨hbodyText, hbehind, hbalanced, hmode⟩ := splitBody_cells hbody
      have hblock : header.render ++ textOf rest =
          header.render ++ textOf body ++ ['\x7d'] ++ textOf behind := by
        simp [hbodyText]
      rw [htail, hblock] at hcells
      have hstep : ReadingStep text before suffix _ :=
        .block hcells hnone hline hheader hbalanced hmode
      have hnot : decide (StartsLine
          (before ++ textOf gap ++ (header.render ++ textOf body ++ ['\x7d']))) = false := by
        rw [decide_eq_false_iff_not, ← List.append_assoc]
        exact not_startsLine_brace _
      rw [hnot, ← hbehind] at hstep
      simpa [Nat.add_assoc] using hstep

/-- Reading makes a cut as far as it goes: to the end of the text, or to the place where it stops
behind a block. -/
theorem segmentsFrom_cuts (text before suffix : Text) :
    ∃ pieces rest, Arranged before pieces ∧ suffix = pieces.flatMap Piece.render ++ rest ∧
      (rest = [] ∧ segmentsFrom text before.length (decide (StartsLine before)) (cells suffix) =
          .ok (Piece.segments text before.length pieces) ∨
        Piece.EndInBlock pieces ∧ ∃ error,
          segmentsFrom text before.length (decide (StartsLine before)) (cells suffix) =
            .error error ∧
          ReadingStop text (before ++ pieces.flatMap Piece.render) rest error) := by
  induction hlength : suffix.length using Nat.strongRecOn generalizing before suffix with
  | ind length ih =>
  subst hlength
  have hstep := readingStep text before suffix
  generalize segmentsFrom text before.length (decide (StartsLine before)) (cells suffix) = result
    at hstep ⊢
  cases hstep with
  | @stop error reason =>
      refine ⟨[], suffix, .nil, rfl, .inr ⟨by simp [Piece.EndInBlock], error, rfl, ?_⟩⟩
      simpa using reason
  | finished noBrace =>
      have hend : cells suffix = cells suffix ++ [] := (List.append_nil _).symm
      have hnone : Arranged (before ++ textOf (cells suffix)) [] := .nil
      obtain ⟨front, hfront, hrender, hsegments⟩ :=
        Arranged.gap hend noBrace (.inl rfl) (by simp) hnone
      refine ⟨front, [], by simpa using hfront, ?_, .inl ⟨rfl, ?_⟩⟩
      · rw [hrender, textOf_cells, List.append_nil]
      · simpa [Piece.segments] using (hsegments text before.length).symm
  | @block gap header body behind split noBrace lineStart wellFormed balanced closed =>
      have hsuffix := textOf_cells suffix
      rw [split, textOf_append, textOf_cells] at hsuffix
      subst hsuffix
      obtain ⟨pieces, rest, hpieces, hbehind, hresult⟩ :=
        ih behind.length (by simp; omega)
          (before ++ textOf gap ++ (header.render ++ body ++ ['\x7d'])) behind rfl
      obtain ⟨front, hfront, hrender, hsegments⟩ := Arranged.gap split noBrace (.inr lineStart)
        (by simp) (.block lineStart wellFormed balanced closed hpieces)
      refine ⟨front ++ .block header body :: pieces, rest, hfront, ?_, ?_⟩
      · simp [hrender, Piece.render, hbehind]
      · rcases hresult with ⟨hrest, hok⟩ | ⟨hend, error, herror, hstop⟩
        · refine .inl ⟨hrest, ?_⟩
          rw [hok, hsegments]
          simp [Except.map, Piece.segments, Piece.render, Nat.add_assoc]
        · refine .inr ⟨hend.append_block front header body, error, by rw [herror]; rfl, ?_⟩
          simpa [hrender, Piece.render] using hstop

theorem Document.parse_eq_map (text : Text) :
    parse text = (segmentsFrom text ([] : Text).length (decide (StartsLine [])) (cells text)).map
      Document.mk := by
  change (segmentsFrom text ([] : Text).length (decide (StartsLine [])) (cells text) >>= _) = _
  generalize segmentsFrom text _ _ (cells text) = result
  cases result <;> rfl

theorem Document.parse_cuts (text : Text) :
    ∃ pieces rest, Arranged [] pieces ∧ text = pieces.flatMap Piece.render ++ rest ∧
      (rest = [] ∧ parse text = .ok (Piece.document text pieces) ∨
        Piece.EndInBlock pieces ∧ ∃ error, parse text = .error error ∧
          ReadingStop text (pieces.flatMap Piece.render) rest error) := by
  obtain ⟨pieces, rest, hpieces, htext, hresult⟩ := segmentsFrom_cuts text [] text
  refine ⟨pieces, rest, hpieces, htext, ?_⟩
  rw [parse_eq_map]
  rcases hresult with ⟨hrest, hok⟩ | ⟨hend, error, herror, hstop⟩
  · exact .inl ⟨hrest, by rw [hok]; rfl⟩
  · exact .inr ⟨hend, error, by rw [herror]; rfl, hstop⟩

theorem Document.parse_sound {text : Text} {document : Document}
    (h : Document.parse text = .ok document) :
    ∃ pieces, Arranged [] pieces ∧ text = pieces.flatMap Piece.render ∧
      document = Piece.document text pieces := by
  obtain ⟨pieces, rest, hpieces, htext, ⟨rfl, hok⟩ | ⟨-, error, herror, -⟩⟩ := parse_cuts text
  · rw [hok] at h
    exact ⟨pieces, hpieces, by simpa using htext, (Except.ok.inj h).symm⟩
  · rw [herror] at h
    cases h

theorem Decomposition.parse_eq {text : Text} {pieces : List Piece}
    (h : Decomposition text pieces) :
    Document.parse text = .ok (Piece.document text pieces) := by
  have hscanned : ScannedBehind [] (cells text ++ []) :=
    ⟨.code, text, by simp [cells], fun _ => rfl⟩
  have hsegments := segmentsFrom_append h text hscanned (.inl rfl)
  rw [List.append_nil, segmentsFrom_nil] at hsegments
  rw [Document.parse_eq_map, hsegments]
  simp [Except.map, Piece.document]

theorem Arranged.decomposition {pieces : List Piece} (h : Arranged [] pieces) :
    Decomposition (pieces.flatMap Piece.render) pieces :=
  h.decomposes

theorem Piece.segments_injective {text : Text} {offset : Nat} {pieces others : List Piece}
    (h : segments text offset pieces = segments text offset others) : pieces = others := by
  induction pieces generalizing others offset with
  | nil =>
      cases others with
      | nil => rfl
      | cons other others => cases h
  | cons piece pieces ih =>
      cases others with
      | nil => cases h
      | cons other others =>
          obtain ⟨hhead, htail⟩ := List.cons.inj h
          have hpiece : piece = other := by
            cases piece <;> cases other <;> simp only [segment, Segment.passthrough.injEq,
              Segment.block.injEq, Block.mk.injEq, reduceCtorEq] at hhead
            · rw [hhead]
            · rw [hhead.1, Line.ofBody_injective hhead.2.2.1]
          subst hpiece
          rw [ih htail]

theorem decomposition_of_parse_eq {text : Text} {pieces : List Piece}
    (h : Document.parse text = .ok (Piece.document text pieces)) : Decomposition text pieces := by
  obtain ⟨others, hothers, rfl, hdocument⟩ := Document.parse_sound h
  obtain rfl := Piece.segments_injective (Document.mk.inj hdocument)
  exact hothers.decomposition

/-- A schema text is read exactly if it has a decomposition. It then has only one, and that is
what is read. -/
theorem Document.parse_iff_decomposition (text : Text) :
    ((∃ document, Document.parse text = .ok document) ↔ ∃ pieces, Decomposition text pieces) ∧
      ∀ pieces, Decomposition text pieces →
        Document.parse text = .ok (Piece.document text pieces) ∧
          ∀ others, Decomposition text others → others = pieces := by
  refine ⟨⟨?_, ?_⟩, ?_⟩
  · rintro ⟨document, hparse⟩
    obtain ⟨pieces, hpieces, rfl, -⟩ := Document.parse_sound hparse
    exact ⟨pieces, hpieces.decomposition⟩
  · rintro ⟨pieces, hpieces⟩
    exact ⟨_, hpieces.parse_eq⟩
  · intro pieces hpieces
    refine ⟨hpieces.parse_eq, fun others hothers => ?_⟩
    have hdocument : Piece.document text others = Piece.document text pieces :=
      Except.ok.inj (hothers.parse_eq.symm.trans hpieces.parse_eq)
    exact Piece.segments_injective (Document.mk.inj hdocument)

/-- Braces in a string and in comments count for nothing, paired ones stay in the body, and the
first header stands behind a byte order mark. -/
theorem Document.parse_iff_decomposition_marked :
    let body := "\n  b Json @default(\"\x7d\") // \x7b\n  c \x7b\x7d\n".toList
    let header : Header := { keyword := "model".toList, name := "a".toList }
    let pieces := [.passthrough [byteOrderMark], .block header body,
      .passthrough "\n// \x7d\n".toList]
    let text := pieces.flatMap Piece.render
    Decomposition text pieces ∧ Document.parse text = .ok (Piece.document text pieces) ∧
      ∀ others, Decomposition text others → others = pieces := by
  intro body header pieces text
  have hparse : Document.parse text = .ok (Piece.document text pieces) := by decide +kernel
  have hpieces := decomposition_of_parse_eq hparse
  exact ⟨hpieces, (Document.parse_iff_decomposition text).2 pieces hpieces⟩

end SchemaCase
