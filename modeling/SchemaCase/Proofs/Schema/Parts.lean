import SchemaCase.Proofs.Schema.Classification
import SchemaCase.Proofs.Source.Mask

/-! Parts of a text that are read on their own: the pieces of a schema, the lines of a block and
what follows the name of a field. Each of them is cut out where the whole text is read as code, and
so shows the same strings and comments as the whole text does in its place. -/

namespace SchemaCase

open Source

def Text.slice (text : Text) (offset length : Nat) : Text :=
  (text.drop offset).take length

theorem Text.slice_append (front part back : Text) :
    slice (front ++ part ++ back) front.length part.length = part := by
  simp [slice]

namespace Source

/-- Read on its own, `part` gives the cells that stand at `offset` of the whole text. -/
def PartAt (whole : Text) (offset : Nat) (part : Text) : Prop :=
  ∃ front back, cells whole = front ++ cells part ++ back ∧ front.length = offset

namespace PartAt

variable {whole part : Text} {offset : Nat}

theorem slice_text (h : PartAt whole offset part) : whole.slice offset part.length = part := by
  obtain ⟨front, back, hcells, rfl⟩ := h
  have hwhole : whole = textOf front ++ part ++ textOf back := by
    rw [← textOf_cells whole, hcells, textOf_append, textOf_append, textOf_cells]
  rw [hwhole, ← length_textOf front]
  exact Text.slice_append _ _ _

theorem slice_mask (h : PartAt whole offset part) :
    (mask whole).slice offset part.length = mask part := by
  obtain ⟨front, back, hcells, rfl⟩ := h
  have hwhole : mask whole = front.map Cell.visible ++ mask part ++ back.map Cell.visible := by
    rw [mask, hcells, List.map_append, List.map_append]
    rfl
  have hfront : front.length = (front.map Cell.visible).length := by simp
  rw [hwhole, hfront, ← length_mask part]
  exact Text.slice_append _ _ _

theorem trans {inner : Text} {start : Nat} (h : PartAt whole offset part)
    (hinner : PartAt part start inner) : PartAt whole (offset + start) inner := by
  obtain ⟨front, back, hcells, rfl⟩ := h
  obtain ⟨front', back', hpart, rfl⟩ := hinner
  refine ⟨front ++ front', back' ++ back, ?_, by simp⟩
  rw [hcells, hpart]
  simp

end PartAt

theorem Plain.partAt {front : Text} (h : Plain front) {part back : Text}
    (hjoins : Joins part back) : PartAt (front ++ part ++ back) front.length part := by
  refine ⟨codeCells front, cellsFrom (Source.modeAfter .code part) back, ?_, by simp [codeCells]⟩
  rw [List.append_assoc, h.cells_append, Source.cells, cellsFrom_append .code hjoins,
    List.append_assoc]
  rfl

end Source

theorem Arranged.partAt {before : Text} {front back : List Piece} {piece : Piece}
    (h : Arranged before (front ++ piece :: back)) :
    PartAt ((front ++ piece :: back).flatMap Piece.render) (front.flatMap Piece.render).length
      piece.render := by
  have hcells := h.cells_append (.inl rfl)
  rw [List.append_nil] at hcells
  refine ⟨front.flatMap fun other => cells other.render,
    back.flatMap fun other => cells other.render, ?_, ?_⟩
  · rw [hcells]
    simp [cells]
  · simp [List.length_flatMap, cells]

theorem Header.WellFormed.partAt_body {header : Header} (h : header.WellFormed) {body : Text}
    (hclosed : modeAfter .code body = .code) :
    PartAt (header.render ++ body ++ ['\x7d']) header.render.length body := by
  have hcells := h.cells_block hclosed []
  rw [List.append_nil] at hcells
  exact ⟨codeCells header.render, _, by rw [hcells, List.append_assoc], by simp [codeCells]⟩

theorem Piece.segments_eq_append {text : Text} {offset : Nat} {pieces : List Piece}
    {before after : List Segment} {segment : Segment}
    (h : segments text offset pieces = before ++ segment :: after) :
    ∃ front piece back, pieces = front ++ piece :: back ∧ before = segments text offset front ∧
      segment = piece.segment text (offset + (front.flatMap Piece.render).length) := by
  induction pieces generalizing offset before with
  | nil => simp [segments] at h
  | cons piece pieces ih =>
      cases before with
      | nil =>
          obtain ⟨rfl, -⟩ := List.cons.inj h
          exact ⟨[], piece, pieces, rfl, rfl, by simp⟩
      | cons first before =>
          obtain ⟨rfl, hrest⟩ := List.cons.inj h
          obtain ⟨front, other, back, rfl, rfl, rfl⟩ := ih hrest
          exact ⟨piece :: front, other, back, rfl, rfl, by simp [Nat.add_assoc]⟩

namespace Line

theorem IsBody.partAt {front back : List Line} {line : Line} (h : IsBody (front ++ line :: back)) :
    PartAt ((front ++ line :: back).flatMap render) (front.flatMap render).length line.text := by
  induction front with
  | nil =>
      cases back with
      | nil =>
          refine ⟨[], [], ?_, rfl⟩
          simp [render, h.2]
      | cons next back =>
          have hcells := h.1.cells_render ((next :: back).flatMap render)
          rw [List.append_assoc] at hcells
          exact ⟨[], _, hcells, rfl⟩
  | cons first front ih =>
      rw [List.cons_append, isBody_cons (by simp)] at h
      have hfirst : PartAt ((first :: (front ++ line :: back)).flatMap render) first.render.length
          ((front ++ line :: back).flatMap render) := by
        refine ⟨cells first.text ++ cellsFrom (Source.modeAfter .code first.text) first.terminator,
          [], ?_, by simp [render, cells]⟩
        rw [List.flatMap_cons, h.1.cells_render, List.append_nil]
      have hline := hfirst.trans (ih h.2)
      rwa [← List.length_append, ← List.flatMap_cons] at hline

end Line

theorem Arranged.partAt_line {before body : Text} {frontPieces backPieces : List Piece}
    {header : Header} {front back : List Line} {line : Line}
    (h : Arranged before (frontPieces ++ .block header body :: backPieces))
    (hlines : Line.ofBody body = front ++ line :: back) :
    PartAt ((frontPieces ++ .block header body :: backPieces).flatMap Piece.render)
      (frontPieces.flatMap Piece.render ++ header.render ++ front.flatMap Line.render).length
      line.text := by
  obtain ⟨hheader, hclosed⟩ :=
    h.block_of_mem (List.mem_append_right frontPieces List.mem_cons_self)
  have hbody := Line.ofBody_isBody body
  have hrender := Line.flatMap_render_ofBody body
  rw [hlines] at hbody hrender
  have hline : PartAt body (front.flatMap Line.render).length line.text := hrender ▸ hbody.partAt
  rw [List.length_append, List.length_append]
  exact (h.partAt.trans (hheader.partAt_body hclosed)).trans hline

/-- The parts of a line make up its text, except for a line feed at its end. -/
theorem FieldParts.read?_sound {text : Text} {parts : FieldParts} (h : read? text = some parts) :
    ∃ remainder, text = parts.text ++ remainder ∧ (remainder = [] ∨ remainder = ['\n']) ∧
      Plain (parts.indent ++ parts.name ++ parts.gap) := by
  obtain ⟨⟨name, afterName⟩, hname, hread⟩ := Option.bind_eq_some_iff.mp h
  obtain ⟨hsplit, hisName, -⟩ := Text.readName?_sound hname
  dsimp only at hread
  split at hread
  · next hparts =>
      cases hread
      simp only [Bool.and_eq_true, Bool.or_eq_true, decide_eq_true_eq] at hparts
      refine ⟨_, ?_, hparts.1.2, ?_⟩
      · rw [FieldParts.text, List.append_assoc, List.takeWhile_append_dropWhile, List.append_assoc,
          Text.leadingBlanks_append_trimStart, List.append_assoc, ← hsplit,
          Text.leadingBlanks_append_trimStart]
      · exact ((plain_of_isBlank (Text.isBlank_leadingBlanks _)).append
          (plain_of_isName hisName)).append
            (plain_of_isBlank (Text.isBlank_leadingBlanks _))
  · cases hread

theorem Line.partAt_rest {line : Line} (h : line.classify.isField) :
    ∃ name, line.classify.fieldName = some name ∧
      PartAt line.text (line.classify.indent ++ name ++ line.classify.gap).length
        line.classify.rest := by
  rcases line.classify_cases with hline | hline | ⟨_, _, hline⟩ | ⟨parts, hread, hline⟩ | hline
  all_goals rw [hline] at h
  case inr.inr.inr.inl =>
    obtain ⟨remainder, htext, hremainder, hplain⟩ := FieldParts.read?_sound hread
    have hjoins : Joins parts.rest remainder := by
      rcases hremainder with rfl | rfl <;> exact .of_head _ (by simp)
    rw [hline, htext]
    exact ⟨parts.name, rfl, hplain.partAt hjoins⟩
  all_goals simp [isField] at h

/-- Reading a line, or the rest of a field, on its own finds the strings and comments that the whole
schema has there. -/
theorem Document.mask_line {text : Text} {document : Document} (h : parse text = .ok document) :
    (∀ before block after, document.segments = before ++ .block block :: after →
      ∀ front line back, block.lines = front ++ line :: back →
        let start := (before.flatMap Segment.render ++ block.header ++
          front.flatMap Line.render).length
        text.slice start line.text.length = line.text ∧
          mask line.text = (mask text).slice start line.text.length) ∧
      ∀ line : Line, line.classify.isField → ∃ name, line.classify.fieldName = some name ∧
        let start := (line.classify.indent ++ name ++ line.classify.gap).length
        let rest := line.classify.rest
        line.text.slice start rest.length = rest ∧
          mask rest = (mask line.text).slice start rest.length := by
  refine ⟨?_, ?_⟩
  · intro before block after hsegments front line back hlines
    obtain ⟨pieces, hpieces, rfl, rfl⟩ := parse_sound h
    obtain ⟨frontPieces, piece, backPieces, rfl, rfl, hpiece⟩ := Piece.segments_eq_append hsegments
    cases piece with
    | passthrough content => cases hpiece
    | block header body =>
        cases hpiece
        rw [Piece.render_segments]
        have hline := hpieces.partAt_line hlines
        exact ⟨hline.slice_text, hline.slice_mask.symm⟩
  · intro line hfield
    obtain ⟨name, hname, hrest⟩ := Line.partAt_rest hfield
    exact ⟨name, hname, hrest.slice_text, hrest.slice_mask.symm⟩

/-- A quote in the comment on the line of the header opens no string on the next line. -/
theorem Document.mask_line_quoted :
    let header : Header := { keyword := "model".toList, name := "a".toList }
    let body := " // \"\n  b Json @default(\"// \\\" \x7d\") // c\r\n".toList
    let pieces := [.passthrough "// \x7b\n".toList, .block header body]
    let text : Text := pieces.flatMap Piece.render
    let line : Line := {
      text := "  b Json @default(\"// \\\" \x7d\") // c".toList
      terminator := "\r\n".toList }
    let rest : Text := "Json @default(\"// \\\" \x7d\") // c".toList
    (parse text = .ok (Piece.document text pieces) ∧ text.slice 20 line.text.length = line.text ∧
        mask line.text = (mask text).slice 20 line.text.length) ∧
      line.classify.isField ∧ line.text.slice 4 rest.length = rest ∧
        mask rest = (mask line.text).slice 4 rest.length := by
  intro header body pieces text line rest
  have hparse : parse text = .ok (Piece.document text pieces) := by decide +kernel
  have hfield : line.classify.isField := by decide +kernel
  have hclassify : line.classify.rest = rest ∧ line.classify.indent = "  ".toList ∧
      line.classify.gap = " ".toList ∧ line.classify.fieldName = some "b".toList := by
    decide +kernel
  obtain ⟨hlines, hrest⟩ := mask_line hparse
  have hline := hlines [.passthrough "// \x7b\n".toList] _ [] rfl
    [{ text := " // \"".toList, terminator := ['\n'] }] line [{ text := [] }] rfl
  refine ⟨⟨hparse, hline⟩, hfield, ?_⟩
  obtain ⟨name, hname, hslices⟩ := hrest line hfield
  rw [hclassify.2.2.2, Option.some.injEq] at hname
  subst hname
  rw [hclassify.1, hclassify.2.1, hclassify.2.2.1] at hslices
  exact hslices

end SchemaCase
