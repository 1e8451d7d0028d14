import SchemaCase.Proofs.Schema.Grammar
import SchemaCase.Proofs.Source.Comment
import SchemaCase.Schema.Classification

/-! Field lines and their parts. The parts of a field line make up its text, so neither telling
the lines of a schema apart nor rebuilding them changes what is written. -/

namespace SchemaCase

open Source

namespace FieldParts

def text (parts : FieldParts) : Text :=
  parts.indent ++ parts.name ++ parts.gap ++ parts.rest

/-- The parts of one line. The rest starts with its type, not with a comment. -/
structure WellFormed (parts : FieldParts) : Prop where
  indent : ∀ c ∈ parts.indent, Text.isBlank c
  name : Text.IsName parts.name
  gap : ∀ c ∈ parts.gap, Text.isBlank c
  gap_ne_nil : parts.gap ≠ []
  rest : ∃ first behind, parts.rest = first :: behind ∧ Text.isBlank first = false
  noComment : ¬['/', '/'] <+: parts.rest
  oneLine : '\n' ∉ parts.text

theorem WellFormed.rest_head? {parts : FieldParts} (h : parts.WellFormed) :
    ∀ c ∈ parts.rest.head?, Text.isBlank c = false := by
  obtain ⟨first, behind, hrest, hfirst⟩ := h.rest
  rw [hrest]
  rintro c ⟨⟩
  exact hfirst

theorem WellFormed.rest_ne_nil {parts : FieldParts} (h : parts.WellFormed) : parts.rest ≠ [] := by
  obtain ⟨first, behind, hrest, -⟩ := h.rest
  simp [hrest]

theorem WellFormed.gap_head? {parts : FieldParts} (h : parts.WellFormed) :
    ∀ c ∈ (parts.gap ++ parts.rest).head?, Text.isWordChar c = false := by
  obtain ⟨first, behind, hgap⟩ := List.exists_cons_of_ne_nil h.gap_ne_nil
  intro c hc
  rw [hgap] at hc
  obtain rfl : first = c := by simpa using hc
  exact Text.isWordChar_of_isBlank (h.gap first (by simp [hgap]))

theorem WellFormed.name_head? {parts : FieldParts} (h : parts.WellFormed) (behind : Text) :
    ∀ c ∈ (parts.name ++ behind).head?, Text.isBlank c = false := by
  obtain ⟨first, hfirst, hword⟩ := h.name.head? behind
  intro c hc
  rw [hfirst] at hc
  obtain rfl : first = c := by simpa using hc
  exact Text.isBlank_of_isWordChar hword

theorem trim_code_eq_nil_iff {first : Char} {behind : Text} (hfirst : Text.isBlank first = false) :
    Text.trim (codeAndComment (first :: behind)).1 = [] ↔ ['/', '/'] <+: first :: behind := by
  constructor
  · intro htrim
    by_contra hcomment
    obtain ⟨code, hcode⟩ := codeAndComment_cons hcomment
    rw [hcode, Text.trim_eq_nil_iff] at htrim
    simp [hfirst] at htrim
  · intro hcomment
    rw [codeAndComment_comment hcomment]
    rfl

private theorem read?_oneLine {text : Text} (h : '\n' ∉ text) :
    read? text = (Text.readName? (Text.trimStart text)).bind fun (name, afterName) =>
      if Text.leadingBlanks afterName ≠ [] ∧ Text.trimStart afterName ≠ [] ∧
          Text.trim (codeAndComment (Text.trimStart afterName)).1 ≠ [] then
        some ⟨Text.leadingBlanks text, name, Text.leadingBlanks afterName,
          Text.trimStart afterName⟩
      else none := by
  unfold read?
  cases hname : Text.readName? (Text.trimStart text) with
  | none => rfl
  | some found =>
      obtain ⟨name, afterName⟩ := found
      obtain ⟨hsplit, -, -⟩ := Text.readName?_sound hname
      have hbehind : ∀ c ∈ Text.trimStart afterName, (c != '\n') = true := by
        intro c hc
        rw [bne_iff_ne]
        rintro rfl
        apply h
        apply List.dropWhile_subset Text.isBlank
        rw [show text.dropWhile Text.isBlank = name ++ afterName from hsplit]
        exact List.mem_append_right _ (List.dropWhile_subset _ hc)
      have hend : ∀ c ∈ ([] : Text).head?, (c != '\n') = false := by simp
      have htake := Text.takeWhile_run hbehind hend
      have hdrop := Text.dropWhile_run hbehind hend
      rw [List.append_nil] at htake hdrop
      simp only [Option.bind_eq_bind, Option.bind_some, htake, hdrop]
      simp [and_assoc]

/-- A line without line feeds is taken apart in one way, if in any. -/
theorem read?_eq_some_iff {text : Text} (h : '\n' ∉ text) {parts : FieldParts} :
    read? text = some parts ↔ parts.WellFormed ∧ parts.text = text := by
  rw [read?_oneLine h]
  constructor
  · intro hread
    obtain ⟨⟨name, afterName⟩, hname, hread⟩ := Option.bind_eq_some_iff.mp hread
    obtain ⟨hsplit, hisName, -⟩ := Text.readName?_sound hname
    dsimp only at hread
    split at hread
    · next hparts =>
        obtain ⟨hgap, hrest, hcode⟩ := hparts
        obtain ⟨first, behind, hbehind⟩ := List.exists_cons_of_ne_nil hrest
        have hfirst := Text.trimStart_head? afterName first (by rw [hbehind]; rfl)
        rw [hbehind, ne_eq, trim_code_eq_nil_iff hfirst] at hcode
        have htext : Text.leadingBlanks text ++ name ++ Text.leadingBlanks afterName ++
            Text.trimStart afterName = text := by
          rw [List.append_assoc, Text.leadingBlanks_append_trimStart, List.append_assoc,
            ← hsplit, Text.leadingBlanks_append_trimStart]
        cases hread
        refine ⟨⟨Text.isBlank_leadingBlanks _, hisName,
          Text.isBlank_leadingBlanks _, hgap,
          ⟨first, behind, hbehind, hfirst⟩, ?_, ?_⟩, htext⟩
        · rw [hbehind]
          exact hcode
        · rw [FieldParts.text, htext]
          exact h
    · cases hread
  · rintro ⟨hparts, rfl⟩
    obtain ⟨first, behind, hrest, hfirst⟩ := hparts.rest
    have htext : parts.text = parts.indent ++ (parts.name ++ (parts.gap ++ parts.rest)) := by
      simp [text]
    rw [htext, Text.trimStart_run hparts.indent (hparts.name_head? _),
      Text.leadingBlanks_run hparts.indent (hparts.name_head? _),
      Text.readName?_append hparts.name hparts.gap_head?, Option.bind_some]
    dsimp only
    rw [Text.leadingBlanks_run hparts.gap hparts.rest_head?,
      Text.trimStart_run hparts.gap hparts.rest_head?, if_pos]
    refine ⟨hparts.gap_ne_nil, by simp [hrest], ?_⟩
    rw [hrest, ne_eq, trim_code_eq_nil_iff hfirst, ← hrest]
    exact hparts.noComment

end FieldParts

namespace Line

/-- All that telling a line apart can do. -/
theorem classify_cases (line : Line) :
    line.classify = { line with kind := .blank } ∨
    line.classify = { line with kind := .comment } ∨
    (∃ name literal, line.classify =
      { line with kind := .blockAttribute, attributeName := name, mapLiteral := literal }) ∨
    (∃ parts, FieldParts.read? line.text = some parts ∧ line.classify =
      { line with
        kind := .field
        indent := parts.indent
        fieldName := some parts.name
        gap := parts.gap
        rest := parts.rest
        mapLiteral := MapCall.inline? parts.rest }) ∨
    line.classify = { line with kind := .other } := by
  simp only [classify]
  split
  · exact .inl rfl
  · split
    · exact .inr (.inl rfl)
    · split
      · exact .inr (.inr (.inl ⟨_, _, rfl⟩))
      · split
        · next parts hread => exact .inr (.inr (.inr (.inl ⟨parts, hread, rfl⟩)))
        · exact .inr (.inr (.inr (.inr rfl)))

@[simp] theorem classify_text (line : Line) : line.classify.text = line.text := by
  rcases line.classify_cases with h | h | ⟨_, _, h⟩ | ⟨_, _, h⟩ | h <;> rw [h]

@[simp] theorem classify_terminator (line : Line) :
    line.classify.terminator = line.terminator := by
  rcases line.classify_cases with h | h | ⟨_, _, h⟩ | ⟨_, _, h⟩ | h <;> rw [h]

@[simp] theorem classify_render (line : Line) : line.classify.render = line.render := by
  rw [render, classify_text, classify_terminator]
  rfl

theorem bare_classify (line : Line) : line.classify.bare = line.bare := by
  rw [bare, classify_text, classify_terminator]
  rfl

theorem trim_field {parts : FieldParts} (h : parts.WellFormed) :
    ∃ first behind, Text.trim parts.text = first :: behind ∧ Text.isNameStart first := by
  obtain ⟨first, name, hname⟩ := List.exists_cons_of_ne_nil h.name.ne_nil
  have hisName := h.name
  rw [hname] at hisName
  have hstart : Text.trimStart parts.text = first :: (name ++ parts.gap ++ parts.rest) := by
    have htext : parts.text = parts.indent ++ (parts.name ++ (parts.gap ++ parts.rest)) := by
      simp [FieldParts.text]
    rw [htext, Text.trimStart_run h.indent (h.name_head? _), hname]
    simp
  have hfirst := Text.isBlank_of_isWordChar (Text.isWordChar_of_isNameStart hisName.1)
  exact ⟨first, _, by rw [Text.trim, hstart, Text.trimEnd_cons hfirst], hisName.1⟩

theorem classify_field {line : Line} {parts : FieldParts} (h : parts.WellFormed)
    (htext : line.text = parts.text) :
    line.classify =
      { line with
        kind := .field
        indent := parts.indent
        fieldName := some parts.name
        gap := parts.gap
        rest := parts.rest
        mapLiteral := MapCall.inline? parts.rest } := by
  obtain ⟨first, behind, htrim, hfirst⟩ := trim_field h
  have hslash : '/' ≠ first := (Text.ne_of_class hfirst (by decide)).symm
  have hat : '@' ≠ first := (Text.ne_of_class hfirst (by decide)).symm
  have hread := (FieldParts.read?_eq_some_iff h.oneLine).mpr ⟨h, rfl⟩
  simp [classify, htext, htrim, hread, List.isPrefixOf, hslash, hat]

theorem exists_parts_of_isField {line : Line} (hfeed : '\n' ∉ line.text)
    (h : line.classify.isField) :
    ∃ parts : FieldParts, parts.WellFormed ∧ line.text = parts.text := by
  rcases line.classify_cases with hline | hline | ⟨_, _, hline⟩ | ⟨parts, hread, hline⟩ | hline
  all_goals rw [hline] at h
  case inr.inr.inr.inl =>
    obtain ⟨hparts, htext⟩ := (FieldParts.read?_eq_some_iff hfeed).mp hread
    exact ⟨parts, hparts, htext.symm⟩
  all_goals simp [isField] at h

theorem rebuild_classify {line : Line} (hfeed : '\n' ∉ line.text) :
    line.classify.rebuild = line.classify := by
  unfold rebuild
  split
  · next hfield =>
      obtain ⟨parts, hparts, htext⟩ := exists_parts_of_isField hfeed hfield
      rw [classify_field hparts htext]
      simp [shownName, htext, FieldParts.text]
  · rfl

end Line

namespace Block

theorem body_mapLines (block : Block) {change : Line → Line}
    (h : ∀ line ∈ block.lines, (change line).render = line.render) :
    { block with lines := block.lines.map change }.body = block.body := by
  rw [body, body, List.flatMap_map]
  exact List.flatMap_congr h

@[simp] theorem classify_toHeader (block : Block) :
    block.classify.toHeader = block.toHeader := by
  unfold classify
  split <;> rfl

@[simp] theorem classify_kind (block : Block) : block.classify.kind = block.kind := by
  unfold classify
  split <;> rfl

@[simp] theorem classify_closing (block : Block) : block.classify.closing = block.closing := by
  unfold classify
  split <;> rfl

@[simp] theorem classify_body (block : Block) : block.classify.body = block.body := by
  unfold classify
  split
  · exact block.body_mapLines fun line _ => line.classify_render
  · rfl

theorem classify_render (block : Block) : block.classify.render = block.render := by
  rw [render, header, classify_toHeader, classify_body, classify_closing]
  rfl

/-- Every line takes its text from its parts. -/
def rebuild (block : Block) : Block :=
  { block with lines := block.lines.map Line.rebuild }

end Block

namespace Document

theorem render_mapBlocks {document : Document} {change : Block → Block}
    (h : ∀ block ∈ document.blocks, (change block).render = block.render) :
    (document.mapBlocks change).render = document.render := by
  rw [mapBlocks, render, render, List.flatMap_map]
  apply List.flatMap_congr
  intro segment hsegment
  cases segment with
  | passthrough text => rfl
  | block block => exact h block (List.mem_filterMap.mpr ⟨.block block, hsegment, rfl⟩)

theorem mapBlocks_mapBlocks (document : Document) (first second : Block → Block) :
    (document.mapBlocks first).mapBlocks second =
      document.mapBlocks fun block => second (first block) := by
  simp only [mapBlocks, List.map_map, Document.mk.injEq]
  apply List.map_congr_left
  intro segment _
  cases segment <;> rfl

def rebuild (document : Document) : Document :=
  document.mapBlocks Block.rebuild

end Document

theorem Piece.render_segments (text : Text) (offset : Nat) (pieces : List Piece) :
    (Piece.segments text offset pieces).flatMap Segment.render = pieces.flatMap Piece.render := by
  induction pieces generalizing offset with
  | nil => rfl
  | cons piece rest ih =>
      rw [Piece.segments, List.flatMap_cons, List.flatMap_cons, ih]
      cases piece with
      | passthrough content => rfl
      | block header body =>
          simp [Piece.segment, Piece.render, Segment.render, Block.render, Block.header,
            Block.body, Line.flatMap_render_ofBody]

theorem Piece.exists_of_mem_segments {text : Text} {offset : Nat} {pieces : List Piece}
    {segment : Segment} (h : segment ∈ Piece.segments text offset pieces) :
    ∃ piece ∈ pieces, ∃ start, segment = piece.segment text start := by
  induction pieces generalizing offset with
  | nil => cases h
  | cons piece rest ih =>
      rcases List.mem_cons.mp h with rfl | h
      · exact ⟨piece, List.mem_cons_self, offset, rfl⟩
      · obtain ⟨other, hother, start, hsegment⟩ := ih h
        exact ⟨other, List.mem_cons_of_mem _ hother, start, hsegment⟩

theorem Piece.lines_of_mem_blocks {text : Text} {pieces : List Piece} {block : Block}
    (h : block ∈ (Piece.document text pieces).blocks) : ∃ body, block.lines = Line.ofBody body := by
  obtain ⟨segment, hsegment, hblock⟩ := List.mem_filterMap.mp h
  obtain ⟨piece, -, start, rfl⟩ := Piece.exists_of_mem_segments hsegment
  cases piece with
  | passthrough content => cases hblock
  | block header body =>
      cases hblock
      exact ⟨body, rfl⟩

theorem Document.read_sound {text : Text} {document : Document}
    (h : Document.read text = .ok document) :
    ∃ pieces, Arranged [] pieces ∧ text = pieces.flatMap Piece.render ∧
      document = (Piece.document text pieces).classify := by
  unfold Document.read at h
  cases hparse : Document.parse text with
  | error error =>
      rw [hparse] at h
      cases h
  | ok parsed =>
      rw [hparse] at h
      obtain ⟨pieces, hpieces, htext, rfl⟩ := Document.parse_sound hparse
      exact ⟨pieces, hpieces, htext, (Except.ok.inj h).symm⟩

theorem Line.isBody_classify (body : Text) :
    Line.IsBody ((Line.ofBody body).map Line.classify) := by
  apply (Line.ofBody_isBody body).replace
  rw [List.forall₂_map_left_iff]
  apply List.forall₂_same.mpr
  intro line _
  exact ⟨line.classify_terminator, by simp, by simp⟩

theorem Block.rebuild_classify_render {block : Block} {body : Text}
    (h : block.lines = Line.ofBody body) : block.classify.rebuild.render = block.render := by
  have hbody : block.classify.rebuild.body = block.classify.body := by
    apply body_mapLines
    unfold classify
    split
    · intro line hline
      obtain ⟨bare, hbare, rfl⟩ := List.mem_map.mp hline
      rw [h] at hbare
      rw [Line.rebuild_classify ((Line.ofBody_isBody body).oneLine bare hbare)]
    -- The lines of a block that is no declaration have no parts, so nothing is rebuilt.
    · intro line hline
      rw [h] at hline
      rw [← Line.bare_of_mem_ofBody hline]
      rfl
  rw [← block.classify_render, render, hbody]
  rfl

namespace Document

/-- A text that is read is written back as it was, also once its lines were told apart and once
all of them were put together again from their parts. -/
theorem render_parse {text : Text} {document : Document} (h : parse text = .ok document) :
    document.render = text ∧ document.classify.render = text ∧
      document.classify.rebuild.render = text := by
  obtain ⟨pieces, -, htext, rfl⟩ := parse_sound h
  have hrender : (Piece.document text pieces).render = text := by
    rw [htext]
    exact Piece.render_segments _ 0 pieces
  refine ⟨hrender, ?_, ?_⟩
  · rw [classify, render_mapBlocks fun block _ => block.classify_render, hrender]
  · have hcompose : (Piece.document text pieces).classify.rebuild =
        (Piece.document text pieces).mapBlocks fun block => block.classify.rebuild := by
      rw [rebuild, classify, mapBlocks_mapBlocks]
    rw [hcompose, render_mapBlocks, hrender]
    intro block hblock
    obtain ⟨body, hlines⟩ := Piece.lines_of_mem_blocks hblock
    exact Block.rebuild_classify_render hlines

/-- Carriage returns, a byte order mark, a comment behind a field and a line with braces come
back. -/
theorem render_parse_mixed :
    let header : Header := { keyword := "model".toList, name := "a".toList }
    let body := " // b\r\n\tc  Int?// d\r\n  @@map(\"e\")\n\n f \x7b \x7d".toList
    let text :=
      "\uFEFFmodel a \x7b // b\r\n\tc  Int?// d\r\n  @@map(\"e\")\n\n f \x7b \x7d\x7d".toList
    let document := Piece.document text [.passthrough [byteOrderMark], .block header body]
    parse text = .ok document ∧ document.render = text ∧ document.classify.render = text ∧
      document.classify.rebuild.render = text := by
  intro header body text document
  have hparse : parse text = .ok document := by decide +kernel
  exact ⟨hparse, render_parse hparse⟩

end Document

end SchemaCase
