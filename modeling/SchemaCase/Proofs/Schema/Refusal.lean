import SchemaCase.Proofs.Schema.Grammar
import SchemaCase.Proofs.Source.Position

/-! Texts that are refused. What stands in front of the place where reading stops is a schema of its
own, and nothing that follows changes how it is read. A brace that belongs to no block therefore
stays where it is, whatever is added, while a block without an end can be given one. -/

namespace SchemaCase

open Source

theorem cells_extend {text : Text} {front back : List Cell} {brace : Cell}
    (hcells : cells text = front ++ brace :: back) (hbrace : brace.isBrace) (more : Text) :
    cells (text ++ more) = front ++ brace :: cells (textOf back ++ more) := by
  obtain ⟨hregion, hchar⟩ := brace.isBrace_iff.mp hbrace
  obtain ⟨hfront, hmode, -⟩ := cellsFrom_brace hcells hbrace
  have hslash : brace.char ≠ '/' := by rcases hchar with h | h <;> rw [h] <;> decide
  have hquote : brace.char ≠ '"' := by rcases hchar with h | h <;> rw [h] <;> decide
  have htext : text ++ more = textOf front ++ brace.char :: (textOf back ++ more) := by
    rw [← textOf_cells text, hcells]
    simp
  have hcell : (⟨brace.char, .code⟩ : Cell) = brace := by rw [← hregion]
  rw [htext, cells, cellsFrom_append .code (.cons _ hslash _), hmode, ← hfront, cellsFrom_cons,
    Mode.step_code_plain hquote hslash, hcell]
  rfl

theorem first_brace_unique {front back front' back' : List Cell} {brace brace' : Cell}
    (h : front ++ brace :: back = front' ++ brace' :: back')
    (hfront : ∀ cell ∈ front, cell.isBrace = false) (hbrace : brace.isBrace)
    (hfront' : ∀ cell ∈ front', cell.isBrace = false) (hbrace' : brace'.isBrace) :
    front = front' ∧ brace = brace' ∧ back = back' := by
  have hrun {cells rest : List Cell} {first : Cell} (hcells : ∀ cell ∈ cells, cell.isBrace = false)
      (hfirst : first.isBrace) : (cells ++ first :: rest).takeWhile (!·.isBrace) = cells := by
    apply Text.takeWhile_run
    · simpa using hcells
    · rintro cell ⟨⟩
      simp [hfirst]
  obtain rfl : front = front' :=
    calc
      front = (front ++ brace :: back).takeWhile (!·.isBrace) := (hrun hfront hbrace).symm
      _ = (front' ++ brace' :: back').takeWhile (!·.isBrace) := by rw [h]
      _ = front' := hrun hfront' hbrace'
  obtain ⟨rfl, rfl⟩ := List.cons.inj (List.append_cancel_left h)
  exact ⟨rfl, rfl, rfl⟩

/-- Whether a header starts here is settled at the first brace. -/
theorem Header.read?_isSome_of_brace {before : Text} {front back other : List Cell} {brace : Cell}
    (hscanned : ScannedBehind before (front ++ brace :: other)) (hstart : StartsLine before)
    (hfront : ∀ cell ∈ front, cell.isBrace = false) (hbrace : brace.isBrace)
    (h : (Header.read? (front ++ brace :: other)).isSome) :
    (Header.read? (front ++ brace :: back)).isSome := by
  obtain ⟨⟨header, rest⟩, hread⟩ := Option.isSome_iff_exists.mp h
  obtain ⟨inner, opening, hsplit, -, hopening, hinner, -⟩ := Header.read?_sound hread
  have hplain : ∀ cell ∈ inner, cell.isBrace = false := by
    intro cell hcell
    have hclass := hinner cell hcell
    rw [Bool.eq_false_iff]
    intro hfound
    rw [Cell.isBrace, Bool.or_eq_true, beq_iff_eq, beq_iff_eq] at hfound
    rcases hfound with hvisible | hvisible <;> rw [hvisible] at hclass <;>
      exact absurd hclass (by decide +kernel)
  obtain ⟨rfl, rfl, rfl⟩ :=
    first_brace_unique hsplit hfront hbrace hplain (by simp [Cell.isBrace, hopening])
  have hcells := hscanned.eq_cells hstart
  rw [hcells] at hread
  obtain ⟨hheader, htext, hrest⟩ := Header.read?_cells hread
  rw [htext, hheader.plain_render.cells_append, ← hrest, List.append_cons] at hcells
  rw [List.append_cons, List.append_cancel_right hcells, Header.read?_codeCells hheader]
  rfl

theorem splitGap_cons_iff {before : Text} {cell : Cell} {rest gap tail : List Cell} :
    splitGap before.length (decide (StartsLine before)) (cell :: rest) = (cell :: gap, tail) ↔
      (StartsLine before → ¬(Header.read? (cell :: rest)).isSome) ∧
        splitGap (before ++ [cell.char]).length (decide (StartsLine (before ++ [cell.char]))) rest =
          (gap, tail) := by
  rw [splitGap, List.length_append, List.length_singleton, decide_startsLine_concat]
  split
  · next hread =>
      rw [Bool.and_eq_true, decide_eq_true_eq] at hread
      simp [hread]
  · next hread =>
      rw [Bool.and_eq_true, decide_eq_true_eq, not_and] at hread
      rw [and_iff_right hread]
      simp only [true_and, List.cons.injEq, Prod.ext_iff]

/-- A gap that holds a brace holds it whatever comes behind. -/
theorem splitGap_extend {before : Text} {front back other gap tail : List Cell} {brace : Cell}
    (hscanned : ScannedBehind before (front ++ brace :: other))
    (hfront : ∀ cell ∈ front, cell.isBrace = false) (hbrace : brace.isBrace)
    (h : splitGap before.length (decide (StartsLine before)) (front ++ brace :: back) =
      (front ++ brace :: gap, tail)) :
    ∃ gap' tail', splitGap before.length (decide (StartsLine before)) (front ++ brace :: other) =
      (front ++ brace :: gap', tail') := by
  have hread (hstart : StartsLine before)
      (hother : ¬(Header.read? (front ++ brace :: back)).isSome) :
      ¬(Header.read? (front ++ brace :: other)).isSome :=
    mt (Header.read?_isSome_of_brace hscanned hstart hfront hbrace) hother
  induction front generalizing before with
  | nil =>
      obtain ⟨hgap, -⟩ := splitGap_cons_iff.mp h
      exact ⟨_, _, splitGap_cons_iff.mpr ⟨fun hstart => hread hstart (hgap hstart), rfl⟩⟩
  | cons cell front ih =>
      obtain ⟨hgap, htail⟩ := splitGap_cons_iff.mp h
      rw [List.forall_mem_cons] at hfront
      obtain ⟨gap', tail', hother⟩ := ih hscanned.tail hfront.2 htail fun hstart =>
        mt (Header.read?_isSome_of_brace hscanned.tail hstart hfront.2 hbrace)
      exact ⟨gap', tail', splitGap_cons_iff.mpr ⟨fun hstart => hread hstart (hgap hstart), hother⟩⟩

theorem segmentsFrom_stray {text before suffix : Text} {front back tail : List Cell} {brace : Cell}
    (hgap : splitGap before.length (decide (StartsLine before)) (cells suffix) =
      (front ++ brace :: back, tail))
    (hfront : ∀ cell ∈ front, cell.isBrace = false) (hbrace : brace.isBrace) (more : Text) :
    segmentsFrom text before.length (decide (StartsLine before)) (cells (suffix ++ more)) =
      .error (.strayBrace text (before.length + front.length)) := by
  have hcells := (splitGap_sound hgap).1
  rw [List.append_assoc, List.cons_append] at hcells
  have hextended := cells_extend hcells hbrace more
  rw [hcells] at hgap
  obtain ⟨gap', tail', hother⟩ := splitGap_extend
    ⟨.code, suffix ++ more, hextended.symm, fun _ => rfl⟩ hfront hbrace hgap
  have hindex : (front ++ brace :: gap').findIdx? Cell.isBrace = some front.length := by
    rw [List.findIdx?_append, List.findIdx?_eq_none_iff.mpr hfront]
    simp [List.findIdx?_cons, hbrace]
  rw [segmentsFrom_eq, hextended, hother]
  simp only [hindex]

theorem Arranged.cells_render_append {before : Text} {pieces : List Piece}
    (h : Arranged before pieces) (hend : Piece.EndInBlock pieces) (rest : Text) :
    cells (pieces.flatMap Piece.render ++ rest) =
      cells (pieces.flatMap Piece.render) ++ cells rest := by
  have hown := h.cells_append (.inl rfl)
  rw [List.append_nil] at hown
  rw [h.cells_append (.inr hend), hown]
  simp [cells]

/-- An error behind complete pieces is an error of the whole text. -/
theorem Arranged.parse_error {pieces : List Piece} (h : Arranged [] pieces)
    (hend : Piece.EndInBlock pieces) {rest : Text} {error : ParseError}
    (hrest : segmentsFrom (pieces.flatMap Piece.render ++ rest)
      (pieces.flatMap Piece.render).length
      (decide (StartsLine (pieces.flatMap Piece.render))) (cells rest) = .error error) :
    Document.parse (pieces.flatMap Piece.render ++ rest) = .error error := by
  have hcells := h.cells_render_append hend rest
  have hsegments := segmentsFrom_append h.decomposes (pieces.flatMap Piece.render ++ rest)
    ⟨.code, pieces.flatMap Piece.render ++ rest, hcells.symm, fun _ => rfl⟩ (.inr hend)
  rw [textOf_cells, List.nil_append, hrest, ← hcells] at hsegments
  rw [Document.parse_eq_map, hsegments]
  rfl

theorem Arranged.append {before : Text} {pieces more : List Piece} (h : Arranged before pieces)
    (hend : Piece.EndInBlock pieces)
    (hmore : Arranged (before ++ pieces.flatMap Piece.render) more) :
    Arranged before (pieces ++ more) := by
  induction h with
  | nil => simpa using hmore
  | @passthrough before text pieces nonempty noBrace separate tail ih =>
      have hseparate : ∀ other, (pieces ++ more).head? ≠ some (.passthrough other) := by
        intro other
        rw [List.head?_append_of_ne_nil _ hend.ne_nil]
        exact separate other
      exact .passthrough nonempty noBrace hseparate
        (ih hend.tail (by simpa [Piece.render] using hmore))
  | @block before header body pieces lineStart wellFormed balanced closed tail ih =>
      exact .block lineStart wellFormed balanced closed
        (ih hend.tail (by simpa [Piece.render] using hmore))

namespace ParseError

/-- The place of the error is the one behind `front`: on the last line of `front`, in the column
that follows it. -/
structure PointsBehind (error : ParseError) (front : Text) : Prop where
  line : error.line = some ((Text.split '\n' front).length : Int)
  column : error.column = some (((Text.split '\n' front).getLast?.getD []).length + 1 : Int)

theorem PointsBehind.of_position {error : ParseError} {front back : Text}
    (hline : error.line = some ((positionAt (front ++ back) front.length).line : Int))
    (hcolumn : error.column = some ((positionAt (front ++ back) front.length).column : Int)) :
    error.PointsBehind front := by
  rw [positionAt_append] at hline hcolumn
  exact ⟨hline, by simpa using hcolumn⟩

theorem strayBrace_append {text : Text} {offset : Nat} (h : offset < text.length) (more : Text) :
    strayBrace (text ++ more) offset = strayBrace text offset := by
  rw [strayBrace, strayBrace, List.take_append_of_le_length (Nat.succ_le_of_lt h)]
  exact congrArg (fun place : Position => (⟨_, _, some place.line, some place.column⟩ : ParseError))
    (positionAt_extend (Nat.le_of_lt h) more)

/-- The error is about a brace of the code, and no text to follow takes it away. -/
structure Hopeless (error : ParseError) (text : Text) : Prop where
  brace : ∃ front brace back, cells text = front ++ brace :: back ∧ brace.region = .code ∧
    (brace.char = '\x7b' ∨ brace.char = '\x7d') ∧ error.PointsBehind (textOf front)
  lasting : ∀ more, Document.parse (text ++ more) = .error error

/-- The error is about the keyword of a block that starts behind a schema and whose opening brace
has no partner, and some text to follow makes a schema of the whole. -/
structure Unfinished (error : ParseError) (text : Text) : Prop where
  header : ∃ (before : Text) (header : Header) (behind : Text),
    text = before ++ header.render ++ behind ∧ header.WellFormed ∧ StartsLine before ∧
    (∃ document, Document.parse before = .ok document) ∧
    cells text = cells before ++ codeCells header.render ++ cells behind ∧
    StaysOpen 0 (codeBraces (cells behind)) ∧ error.PointsBehind (before ++ header.indent)
  completable : ∃ more document, Document.parse (text ++ more) = .ok document

end ParseError

/-- Closing braces on a line of their own end what has no end. -/
theorem StaysOpen.exists_body {behind : Text} (h : StaysOpen 0 (codeBraces (cells behind))) :
    ∃ closings, Balanced 0 (codeBraces (cells (behind ++ closings))) ∧
      modeAfter .code (behind ++ closings) = .code := by
  obtain ⟨missing, hbalanced⟩ : ∃ missing, Balanced 0 (codeBraces (cells behind) ++
      List.replicate missing '\x7d') := ⟨_, h.balanced⟩
  have hplain : Plain (List.replicate missing '\x7d') := by
    intro c hc
    rw [List.eq_of_mem_replicate hc]
    decide
  have hbraces : codeBraces (codeCells (List.replicate missing '\x7d')) =
      List.replicate missing '\x7d' := by
    simp [codeBraces, codeCells, textOf, Cell.isBrace, Cell.visible]
  refine ⟨'\n' :: List.replicate missing '\x7d', ?_, ?_⟩
  · rw [cells, cellsFrom_lineFeed, codeBraces_append, codeBraces_cons_of_not (by decide)]
    change Balanced 0 (codeBraces (cells behind) ++ codeBraces (cells _))
    rw [hplain.cells, hbraces]
    exact hbalanced
  · rw [modeAfter_append_lineFeed, hplain.modeAfter]

theorem StartsLine.cells_append {before : Text} (h : StartsLine before) (rest : Text) :
    cells (before ++ rest) = cells before ++ cells rest := by
  by_cases hne : before = []
  · rw [hne]
    rfl
  · have hwhole : StartsLine ([] ++ before) := h
    exact cells_append_of_startsLine hne hwhole rest

theorem Arranged.hopeless {pieces : List Piece} (h : Arranged [] pieces)
    (hend : Piece.EndInBlock pieces) {rest : Text} {front back tail : List Cell} {brace : Cell}
    (hgap : splitGap (pieces.flatMap Piece.render).length
      (decide (StartsLine (pieces.flatMap Piece.render))) (cells rest) =
        (front ++ brace :: back, tail))
    (hfront : ∀ cell ∈ front, cell.isBrace = false) (hbrace : brace.isBrace) :
    (ParseError.strayBrace (pieces.flatMap Piece.render ++ rest)
      ((pieces.flatMap Piece.render).length + front.length)).Hopeless
        (pieces.flatMap Piece.render ++ rest) := by
  have hcells := (splitGap_sound hgap).1
  rw [List.append_assoc, List.cons_append] at hcells
  have hrest := textOf_cells rest
  rw [hcells, textOf_append, textOf_cons] at hrest
  constructor
  · refine ⟨cells (pieces.flatMap Piece.render) ++ front, brace, back ++ tail, ?_,
      (brace.isBrace_iff.mp hbrace).1, (brace.isBrace_iff.mp hbrace).2, ?_⟩
    · rw [h.cells_render_append hend, hcells, List.append_assoc]
    · rw [textOf_append, textOf_cells, ← hrest, ← List.append_assoc, ← length_textOf,
        ← List.length_append]
      exact .of_position rfl rfl
  · intro more
    have hlength : (pieces.flatMap Piece.render).length + front.length <
        (pieces.flatMap Piece.render ++ rest).length := by
      rw [← hrest]
      simp
    rw [← ParseError.strayBrace_append hlength more, List.append_assoc]
    exact h.parse_error hend (segmentsFrom_stray hgap hfront hbrace more)

theorem Arranged.unfinished {pieces : List Piece} (h : Arranged [] pieces)
    (hend : Piece.EndInBlock pieces) {rest behind : Text} {gap : List Cell} {header : Header}
    (hsplit : cells rest = gap ++ cells (header.render ++ behind))
    (hgap : ∀ cell ∈ gap, cell.isBrace = false)
    (hstart : StartsLine (pieces.flatMap Piece.render ++ textOf gap))
    (hheader : header.WellFormed) (hendless : splitBody 0 (cells behind) = none) :
    (ParseError.unclosedBlock (pieces.flatMap Piece.render ++ rest)
      ((pieces.flatMap Piece.render).length + gap.length + header.indent.length) header.keyword
        header.name).Unfinished (pieces.flatMap Piece.render ++ rest) := by
  have hrest := textOf_cells rest
  rw [hsplit, textOf_append, textOf_cells] at hrest
  have hopen := staysOpen_of_splitBody hendless
  constructor
  · refine ⟨pieces.flatMap Piece.render ++ textOf gap, header, behind, ?_, hheader, hstart, ?_, ?_,
      hopen, ?_⟩
    · rw [← hrest]
      simp
    · obtain ⟨front, hfront, hrender, -⟩ :=
        Arranged.gap hsplit hgap (.inr hstart) (by simp) .nil
      rw [List.append_nil] at hfront
      have hbefore := (h.append hend hfront).decomposition.parse_eq
      rw [List.flatMap_append, hrender] at hbefore
      exact ⟨_, hbefore⟩
    · rw [← hrest, ← List.append_assoc, hstart.cells_append, hheader.plain_render.cells_append,
        List.append_assoc]
    · have hplace : pieces.flatMap Piece.render ++ rest =
          pieces.flatMap Piece.render ++ textOf gap ++ header.indent ++
            (header.keyword ++ header.gap ++ header.name ++ header.trail ++ '\x7b' :: behind) := by
        rw [← hrest]
        simp [Header.render]
      rw [hplace, ← length_textOf, ← List.length_append, ← List.length_append]
      exact .of_position rfl rfl
  · obtain ⟨closings, hbalanced, hclosed⟩ := hopen.exists_body
    obtain ⟨front, hfront, hrender, -⟩ := Arranged.gap hsplit hgap (.inr hstart) (by simp)
      (.block hstart hheader hbalanced hclosed .nil)
    have hwhole := (h.append hend hfront).decomposition.parse_eq
    have htext : (pieces ++ (front ++ [Piece.block header (behind ++ closings)])).flatMap
        Piece.render = pieces.flatMap Piece.render ++ rest ++ (closings ++ ['\x7d']) := by
      rw [← hrest]
      simp [hrender, Piece.render]
    rw [htext] at hwhole
    exact ⟨_, _, hwhole⟩

/-- An error of reading tells a text that no continuation can save from one that only lacks its
end. -/
theorem Document.parse_error_hopeless_or_unfinished {text : Text} {error : ParseError}
    (h : parse text = .error error) :
    (error.kind = .unrecognizedConstruct → error.Hopeless text) ∧
      (error.kind = .unterminatedBlock → error.Unfinished text) := by
  obtain ⟨pieces, rest, hpieces, htext, ⟨-, hok⟩ | ⟨hend, found, herror, hstop⟩⟩ := parse_cuts text
  · rw [hok] at h
    cases h
  obtain rfl : found = error := Except.error.inj (herror.symm.trans h)
  subst htext
  cases hstop with
  | stray gap noBrace isBrace =>
      refine ⟨fun _ => hpieces.hopeless hend gap noBrace isBrace, fun hkind => ?_⟩
      cases hkind
  | unclosed split noBrace lineStart wellFormed endless =>
      refine ⟨fun hkind => ?_,
        fun _ => hpieces.unfinished hend split noBrace lineStart wellFormed endless⟩
      cases hkind

/-- A second slash would make a comment of the first, and a quote would close the string. -/
theorem Document.parse_error_slash_and_string :
    let stray := "model a \x7b\n  b Int // \x7b\n\x7d\n/ \x7d /".toList
    let strayError := ParseError.strayBrace stray 27
    let unclosed := "enum e \x7b\n  c\n\x7d\n model a \x7b\n  b \x7b Json @default(\"\x7d".toList
    let unclosedError := ParseError.unclosedBlock unclosed 16 "model".toList "a".toList
    (parse stray = .error strayError ∧ strayError.Hopeless stray) ∧
      parse unclosed = .error unclosedError ∧ unclosedError.Unfinished unclosed := by
  intro stray strayError unclosed unclosedError
  have hstray : parse stray = .error strayError := by decide +kernel
  have hunclosed : parse unclosed = .error unclosedError := by decide +kernel
  exact ⟨⟨hstray, (parse_error_hopeless_or_unfinished hstray).1 rfl⟩, hunclosed,
    (parse_error_hopeless_or_unfinished hunclosed).2 rfl⟩

end SchemaCase
