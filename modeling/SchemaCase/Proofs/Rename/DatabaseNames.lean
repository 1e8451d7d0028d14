import SchemaCase.Proofs.Rename.Rereading

/-! Database names. Where no line leaves a string open, a name that a migration records is found
again when its result is read, so no sequence of migrations changes the database name of a block
or of a field. -/

namespace SchemaCase

open Source

def AddsAtMostOne (before after : Nat) : Prop :=
  after = before ∨ before = 0 ∧ after = 1

theorem AddsAtMostOne.refl (count : Nat) : AddsAtMostOne count count :=
  .inl rfl

theorem AddsAtMostOne.trans {first second third : Nat} (h : AddsAtMostOne first second)
    (hnext : AddsAtMostOne second third) : AddsAtMostOne first third := by
  unfold AddsAtMostOne at *
  omega

namespace Line

/-- No string is open where the line ends. -/
def StringsClosed (line : Line) : Prop :=
  modeAfter .code line.text = .code ∨ modeAfter .code line.text = .comment

instance : DecidablePred StringsClosed :=
  fun _ => inferInstanceAs (Decidable (_ ∨ _))

/-- The name of a field in the database: the one that is recorded, or else its own. -/
def databaseName (line : Line) : Option Text :=
  line.mapLiteral.or line.fieldName

def mapCallCount (line : Line) : Nat :=
  (MapCall.inlineCalls line.rest).length

def isMapLine (line : Line) : Bool :=
  line.kind == .blockAttribute && line.attributeName == some "map".toList

structure KeepsDatabaseName (before after : Line) : Prop where
  databaseName : after.databaseName = before.databaseName
  mapCalls : AddsAtMostOne before.mapCallCount after.mapCallCount

theorem KeepsDatabaseName.trans {first second third : Line} (h : first.KeepsDatabaseName second)
    (hnext : second.KeepsDatabaseName third) : first.KeepsDatabaseName third :=
  ⟨hnext.databaseName.trans h.databaseName, h.mapCalls.trans hnext.mapCalls⟩

end Line

namespace Block

/-- The name of a block in the database: the one that its first `@@map` line records, or else its
own. -/
def databaseName (block : Block) : Option Text :=
  match block.findAttribute? "map".toList with
  | some line => line.mapLiteral
  | none => some block.name

def mapLines (block : Block) : List Line :=
  block.lines.filter Line.isMapLine

def StringsClosed (block : Block) : Prop :=
  ∀ line ∈ block.lines, line.StringsClosed

instance : DecidablePred StringsClosed :=
  fun block => inferInstanceAs (Decidable (∀ line ∈ block.lines, line.StringsClosed))

structure KeepsDatabaseNames (before after : Block) : Prop where
  kind : after.kind = before.kind
  databaseName : after.databaseName = before.databaseName
  mapLines : AddsAtMostOne before.mapLines.length after.mapLines.length
  fields : List.Forall₂ Line.KeepsDatabaseName before.fields after.fields

end Block

theorem Block.KeepsDatabaseNames.trans {first second third : Block}
    (h : first.KeepsDatabaseNames second) (hnext : second.KeepsDatabaseNames third) :
    first.KeepsDatabaseNames third :=
  ⟨hnext.kind.trans h.kind, hnext.databaseName.trans h.databaseName,
    h.mapLines.trans hnext.mapLines,
    forall₂_compose h.fields hnext.fields fun _ _ _ => Line.KeepsDatabaseName.trans⟩

theorem inlineCalls_retype {newType? : Text → Option Text}
    (hnew : ∀ token name, newType? token = some name → Text.IsName name) (rest : Text) :
    MapCall.inlineCalls (retype newType? rest) = MapCall.inlineCalls rest := by
  rcases retype_cases hnew rest with
    hsame | ⟨token, newName, behind, htoken, hname, hrest, hnewRest⟩
  · rw [hsame]
  · rw [hnewRest, hrest, MapCall.inlineCalls_token hname, MapCall.inlineCalls_token htoken]

/-- A line without calls has one once a name is recorded in it: the one that records it. -/
theorem inlineCalls_annotate {name rest code blanks comment : Text}
    (h : CodeSplit rest code blanks comment) (hname : Literal name) (hfeed : '\n' ∉ rest)
    (hcode : modeAfter .code code = .code) (hnone : MapCall.inlineCalls rest = []) :
    ∃ back, MapCall.inlineCalls (annotate name rest) = [MapCall.recordedArgument name back] := by
  have hgap := isBlank_commentGap h.blanks comment
  have hfound : MapCall.inlineCalls code = [] := by
    rw [h.eq_code_append, MapCall.inlineCalls_blank h.joins (h.behind_blank hfeed)] at hnone
    exact List.map_eq_nil_iff.mp hnone
  have hback : ∀ cell ∈ cells (commentGap blanks comment ++ comment), cell.visible ≠ '@' := by
    intro cell hcell
    rw [(plain_of_isBlank hgap).cells_append] at hcell
    rcases List.mem_append.mp hcell with hcell | hcell
    · obtain ⟨hvisible, hmem⟩ := visible_of_mem_codeCells hcell
      rw [hvisible]
      exact Text.ne_of_class (hgap _ hmem) (by decide)
    · rw [Cell.visible_comment (h.comment_cells hfeed cell hcell)]
      decide
  refine ⟨commentGap blanks comment ++ comment, ?_⟩
  have hannotate : annotate name rest =
      code ++ ' ' :: (mapCall name ++ (commentGap blanks comment ++ comment)) := by
    simp [annotate_eq h]
  rw [hannotate, MapCall.inlineCalls_recorded hcode hname hback, hfound]
  rfl

theorem inline?_eq_none_iff (fragment : Text) :
    MapCall.inline? fragment = none ↔ MapCall.inlineCalls fragment = [] := by
  rw [MapCall.inline?_eq, Option.map_eq_none_iff, List.head?_eq_none_iff]

theorem inline?_recorded {fragment name back : Text} (hname : Literal name)
    (h : MapCall.inlineCalls fragment = [MapCall.recordedArgument name back]) :
    MapCall.inline? fragment = some name := by
  rw [MapCall.inline?_eq, h, List.head?_cons, Option.map_some]
  exact congrArg some (MapCall.argument_literal hname (')' :: back))

/-- What was read from a line is what it says, and no string is open where it ends. -/
structure Line.Settled (line : Line) : Prop where
  classified : line.bare.classify = line
  closed : line.StringsClosed

structure Line.Survives (before after : Line) : Prop where
  settled : after.Settled
  isField : after.isField = before.isField
  other : before.isField = false → after = before
  keeps : before.KeepsDatabaseName after

theorem FieldParts.literal_of_classified {parts : FieldParts} {terminator : Text}
    {literal : Option Text} (hparts : parts.WellFormed)
    (h : (parts.line terminator literal).bare.classify = parts.line terminator literal) :
    literal = MapCall.inline? parts.rest := by
  have htext : (parts.line terminator literal).text = parts.text := rfl
  rw [Line.classify_bare_field hparts htext] at h
  exact (congrArg Line.mapLiteral h).symm

theorem FieldParts.classified_line {parts : FieldParts} {literal : Option Text}
    (hparts : parts.WellFormed) (hliteral : MapCall.inline? parts.rest = literal)
    (terminator : Text) :
    (parts.line terminator literal).bare.classify = parts.line terminator literal := by
  have htext : (parts.line terminator literal).text = parts.text := rfl
  rw [Line.classify_bare_field hparts htext, hliteral]
  rfl

theorem FieldParts.inline?_recordedRest {parts : FieldParts} (hparts : parts.WellFormed)
    (hmode : modeAfter .code parts.rest = .code ∨ modeAfter .code parts.rest = .comment) :
    let recorded := parts.recordedRest (MapCall.inline? parts.rest)
    MapCall.inline? recorded = some ((MapCall.inline? parts.rest).getD parts.name) ∧
      AddsAtMostOne (MapCall.inlineCalls parts.rest).length
        (MapCall.inlineCalls recorded).length := by
  cases hliteral : MapCall.inline? parts.rest with
  | some literal => exact ⟨hliteral, .refl _⟩
  | none =>
      have hnone := (inline?_eq_none_iff parts.rest).mp hliteral
      have hname := literal_of_isName hparts.name
      obtain ⟨code, blanks, comment, hsplit⟩ := exists_codeSplit parts.rest
      obtain ⟨back, hcalls⟩ := inlineCalls_annotate hsplit hname hparts.rest_oneLine
        (hsplit.code_closed hparts.rest_oneLine hmode) hnone
      refine ⟨inline?_recorded hname hcalls, .inr ⟨?_, ?_⟩⟩
      · rw [hnone, List.length_nil]
      · exact congrArg List.length hcalls

section Names

variable {newType? : Text → Option Text}
  (hnew : ∀ token name, newType? token = some name → Text.IsName name)

include hnew

theorem inline?_retype (rest : Text) :
    MapCall.inline? (retype newType? rest) = MapCall.inline? rest := by
  rw [MapCall.inline?_eq, MapCall.inline?_eq, inlineCalls_retype hnew]

theorem LineChange.survives {rule : Text → Option Text} {block : Text} {before after : Line}
    {records : List Record} (h : LineChange rule newType? block before after records)
    (hsettled : before.Settled) : before.Survives after := by
  have hafter : after.StringsClosed := by
    rw [Line.StringsClosed, (h.takes hnew).unobtrusive.mode hsettled.closed]
    exact hsettled.closed
  cases h with
  | other hfield => exact ⟨hsettled, rfl, fun _ => rfl, rfl, .refl _⟩
  | @kept parts terminator literal hparts =>
      have hliteral := FieldParts.literal_of_classified hparts hsettled.classified
      refine ⟨⟨?_, hafter⟩, rfl, nofun, rfl, .inl ?_⟩
      · apply FieldParts.classified_line (hparts.retype hnew)
        rw [inline?_retype hnew, hliteral]
      · exact congrArg List.length (inlineCalls_retype hnew parts.rest)
  | @renamed parts terminator newName literal hparts hrule hidentifier hdiffers =>
      obtain rfl := FieldParts.literal_of_classified hparts hsettled.classified
      have hmode : modeAfter .code parts.rest = modeAfter .code parts.text :=
        (hparts.plain_front.modeAfter_append parts.rest).symm
      have hrest : modeAfter .code parts.rest = .code ∨ modeAfter .code parts.rest = .comment := by
        rw [hmode]
        exact hsettled.closed
      -- The new literal has to be the one that is found in the new text.
      obtain ⟨hinline, hcount⟩ := FieldParts.inline?_recordedRest hparts hrest
      refine ⟨⟨?_, hafter⟩, rfl, nofun, ?_, ?_⟩
      · apply FieldParts.classified_line (hparts.renamed hnew hidentifier _)
        rw [inline?_retype hnew, hinline]
      · cases hliteral : MapCall.inline? parts.rest <;> rfl
      · simp only [Line.mapCallCount, FieldParts.line, inlineCalls_retype hnew]
        exact hcount

theorem Changes.survive {rule : Text → Option Text} {block : Text} {lines changed : List Line}
    {records : List Record} (h : Changes (LineChange rule newType? block) lines changed records)
    (hsettled : ∀ line ∈ lines, line.Settled) : List.Forall₂ Line.Survives lines changed :=
  h.forall₂ fun line hline _ _ change => change.survives hnew (hsettled line hline)

end Names

theorem Line.isMapLine_field {line : Line} (h : line.isField) : line.isMapLine = false := by
  have hkind : line.kind = .field := by simpa [isField] using h
  simp [isMapLine, hkind]

theorem Block.findAttribute?_map (block : Block) :
    block.findAttribute? "map".toList = block.mapLines.head? :=
  List.head?_filter.symm

theorem Block.databaseName_eq (block : Block) :
    block.databaseName =
      match block.mapLines.head? with
      | some line => line.mapLiteral
      | none => some block.name := by
  rw [Block.databaseName, Block.findAttribute?_map]

section Surviving

variable {lines changed : List Line} (h : List.Forall₂ Line.Survives lines changed)

include h

theorem fields_survive :
    List.Forall₂ Line.KeepsDatabaseName (lines.filter Line.isField)
      (changed.filter Line.isField) := by
  induction h with
  | nil => exact .nil
  | @cons before after lines changed hline hrest ih =>
      rw [List.filter_cons, List.filter_cons, hline.isField]
      split
      · exact .cons hline.keeps ih
      · exact ih

theorem mapLines_survive : changed.filter Line.isMapLine = lines.filter Line.isMapLine := by
  induction h with
  | nil => rfl
  | @cons before after lines changed hline hrest ih =>
      rw [List.filter_cons, List.filter_cons, ih]
      -- A field line records no name of its block; any other line is the same as before.
      cases hfield : before.isField with
      | true =>
          have hafter := hline.isField.trans hfield
          rw [Line.isMapLine_field hfield, Line.isMapLine_field hafter]
          rfl
      | false => rw [hline.other hfield]

theorem settled_survive : ∀ line ∈ changed, line.Settled := by
  induction h with
  | nil => simp
  | cons hline hrest ih =>
      rw [List.forall_mem_cons]
      exact ⟨hline.settled, ih⟩

end Surviving

namespace Block

variable (block : Block)

theorem settled_mapLine {name : Text} (hname : Text.IsName name) :
    (block.mapLine name).Settled := by
  have hplain : Plain (block.innerIndent ++ ['@']) :=
    (plain_of_isBlank block.isBlank_of_mem_innerIndent).append (by decide)
  have htext : (block.mapLine name).text =
      (block.innerIndent ++ ['@']) ++ (mapCall name ++ []) := by
    rw [mapLine_text]
    simp
  constructor
  · rw [mapLine, Line.bare_classify]
    rfl
  · left
    rw [htext, hplain.modeAfter_append, modeAfter_mapCall (literal_of_isName hname)]
    rfl

theorem mapLiteral_mapLine {name : Text} (hname : Text.IsName name) :
    (block.mapLine name).mapLiteral = some name := by
  rw [mapLine_eq]
  exact MapCall.ofBlock?_mapCall block.isBlank_of_mem_innerIndent (literal_of_isName hname)

theorem isMapLine_mapLine (name : Text) : (block.mapLine name).isMapLine := by
  rw [mapLine_eq]
  rfl

end Block

section Insertion

variable {block : Block} {changed inserted : List Line}
  (h : MapInsertion block changed inserted)

include h

theorem MapInsertion.mapLines (hnone : changed.filter Line.isMapLine = []) :
    inserted.filter Line.isMapLine = [block.mapLine block.name] := by
  have hmap := block.isMapLine_mapLine block.name
  cases h with
  | below hfield hterminated =>
      obtain ⟨hfirst, hrest⟩ := List.forall_mem_cons.mp (List.filter_eq_nil_iff.mp hnone)
      rw [List.filter_cons_of_neg hfirst, List.filter_cons_of_pos hmap,
        List.filter_eq_nil_iff.mpr hrest]
  | headerEnd =>
      rw [List.filter_cons_of_neg (by simp [Line.isMapLine, Block.headerEnd]),
        List.filter_cons_of_pos hmap, hnone]

theorem MapInsertion.settled (hname : Text.IsName block.name)
    (hchanged : ∀ line ∈ changed, line.Settled) : ∀ line ∈ inserted, line.Settled := by
  have hmap := block.settled_mapLine hname
  cases h with
  | below hfield hterminated =>
      obtain ⟨hfirst, hrest⟩ := List.forall_mem_cons.mp hchanged
      rw [List.forall_mem_cons, List.forall_mem_cons]
      exact ⟨hfirst, hmap, hrest⟩
  | headerEnd =>
      rw [List.forall_mem_cons, List.forall_mem_cons]
      exact ⟨⟨rfl, .inl rfl⟩, hmap, hchanged⟩

end Insertion

theorem BlockChange.keepsDatabaseNames {naming : Naming} {newType? : Text → Option Text}
    {block after : Block} {records : List Record}
    (hnew : ∀ token name, newType? token = some name → Text.IsName name)
    (h : BlockChange naming newType? block after records) (hready : block.Ready)
    (hclosed : block.StringsClosed) :
    block.KeepsDatabaseNames after ∧ ∀ line ∈ after.lines, line.Settled := by
  have hsettled : ∀ line ∈ block.lines, line.Settled :=
    fun line hline => ⟨hready.settled line hline, hclosed line hline⟩
  cases h with
  | @kept changed records lines =>
      have hlines := lines.survive hnew hsettled
      have hmaps : Block.mapLines { block with lines := changed } = block.mapLines :=
        mapLines_survive hlines
      refine ⟨⟨rfl, ?_, .inl (congrArg List.length hmaps), fields_survive hlines⟩,
        settled_survive hlines⟩
      rw [Block.databaseName_eq, Block.databaseName_eq, hmaps]
  | @renamed newName changed records hrule hidentifier hdiffers hmap lines =>
      have hlines := lines.survive hnew hsettled
      have hmaps : Block.mapLines { block with name := newName, lines := changed } =
          block.mapLines :=
        mapLines_survive hlines
      refine ⟨⟨rfl, ?_, .inl (congrArg List.length hmaps), fields_survive hlines⟩,
        settled_survive hlines⟩
      rw [Block.findAttribute?_map, Option.isSome_iff_exists] at hmap
      obtain ⟨line, hline⟩ := hmap
      rw [Block.databaseName_eq, Block.databaseName_eq, hmaps, hline]
  | @mapped newName changed inserted records hrule hidentifier hdiffers hmap lines insertion =>
      have hlines := lines.survive hnew hsettled
      have hname := hready.header.name
      have hnone : block.mapLines = [] := by
        rwa [Block.findAttribute?_map, List.head?_eq_none_iff] at hmap
      have hmaps : Block.mapLines { block with name := newName, lines := inserted } =
          [block.mapLine block.name] :=
        insertion.mapLines ((mapLines_survive hlines).trans hnone)
      have hfields : Block.fields { block with name := newName, lines := inserted } =
          changed.filter Line.isField :=
        insertion.fields
      refine ⟨⟨rfl, ?_, ?_, ?_⟩, insertion.settled hname (settled_survive hlines)⟩
      · rw [Block.databaseName_eq, Block.databaseName_eq, hmaps, hnone]
        exact block.mapLiteral_mapLine hname
      · rw [hmaps, hnone]
        exact .inr ⟨rfl, rfl⟩
      · rw [hfields]
        exact fields_survive hlines

def Document.StringsClosed (document : Document) : Prop :=
  ∀ block ∈ document.declarations, block.StringsClosed

instance : DecidablePred Document.StringsClosed :=
  fun document => inferInstanceAs (Decidable (∀ block ∈ document.declarations, block.StringsClosed))

theorem BlockChange.segment_ready {naming : Naming} {newType? : Text → Option Text}
    {block after : Block} {records : List Record}
    (hnew : ∀ token name, newType? token = some name → Text.IsName name)
    (h : BlockChange naming newType? block after records) (hsegment : (Segment.block block).Ready)
    (hready : block.Ready) (hsettled : ∀ line ∈ after.lines, line.Settled) :
    (Segment.block after).Ready := by
  refine ⟨h.closing_eq.trans hsegment.1, ?_, fun _ => ?_⟩
  · rw [h.kind_eq, hsegment.2.1]
    cases h <;> rfl
  · exact ⟨h.header hready.header, (h.takeBody hnew hready).isBody,
      fun line hline => (hsettled line hline).classified⟩

theorem Changes.keepDatabaseNames {naming : Naming} {newType? : Text → Option Text}
    {segments changed : List Segment} {records : List Record}
    (hnew : ∀ token name, newType? token = some name → Text.IsName name)
    (h : Changes (SegmentChange naming newType?) segments changed records)
    (hready : ∀ segment ∈ segments, segment.Ready)
    (hclosed : Document.StringsClosed ⟨segments⟩) :
    (∀ segment ∈ changed, segment.Ready) ∧ Document.StringsClosed ⟨changed⟩ ∧
      List.Forall₂ Block.KeepsDatabaseNames (Document.declarations ⟨segments⟩)
        (Document.declarations ⟨changed⟩) := by
  induction h with
  | nil => exact ⟨by simp, hclosed, .nil⟩
  | @cons before after rest changed records more head tail ih =>
      rw [List.forall_mem_cons] at hready ⊢
      cases head with
      | passthrough =>
          obtain ⟨hrest, htail, hkeep⟩ := ih hready.2 hclosed
          exact ⟨⟨trivial, hrest⟩, htail, hkeep⟩
      | @other block hdeclaration =>
          rw [Document.StringsClosed, Document.declarations_cons_other hdeclaration] at hclosed ⊢
          rw [Document.declarations_cons_other hdeclaration]
          obtain ⟨hrest, htail, hkeep⟩ := ih hready.2 hclosed
          exact ⟨⟨hready.1, hrest⟩, htail, hkeep⟩
      | @declaration block after records hdeclaration change =>
          have hafter : after.isDeclaration := by
            rwa [Block.isDeclaration, change.kind_eq]
          rw [Document.StringsClosed, Document.declarations_cons hdeclaration,
            List.forall_mem_cons] at hclosed
          have hblock := hready.1.2.2 hdeclaration
          have hnames := Block.typeRule_names hnew block
          obtain ⟨hkeeps, hlines⟩ := change.keepsDatabaseNames hnames hblock hclosed.1
          obtain ⟨hrest, htail, hkeep⟩ := ih hready.2 hclosed.2
          have hsegment := change.segment_ready hnames hready.1 hblock hlines
          rw [Document.StringsClosed, Document.declarations_cons hdeclaration,
            Document.declarations_cons hafter, List.forall_mem_cons]
          exact ⟨⟨hsegment, hrest⟩, ⟨fun line hline => (hlines line hline).closed, htail⟩,
            .cons hkeeps hkeep⟩

theorem stringsClosed_readAs {blocks reads : List Block}
    (h : List.Forall₂ Block.ReadAs blocks reads)
    (hclosed : ∀ block ∈ blocks, block.StringsClosed) : ∀ read ∈ reads, read.StringsClosed := by
  induction h with
  | nil => exact hclosed
  | cons hhead htail ih =>
      rw [List.forall_mem_cons] at hclosed ⊢
      obtain ⟨lineNumber, rfl⟩ := hhead
      exact ⟨hclosed.1, ih hclosed.2⟩

theorem Block.KeepsDatabaseNames.readAs {before after read : Block}
    (h : before.KeepsDatabaseNames after) (hread : after.ReadAs read) :
    before.KeepsDatabaseNames read := by
  obtain ⟨lineNumber, rfl⟩ := hread
  exact ⟨h.kind, h.databaseName, h.mapLines, h.fields⟩

theorem migrate_keeps {naming : Naming} {text : Text} {document : Document}
    (renameReferences : Bool) (hread : Document.read text = .ok document)
    (hnaming : document.blocks.findSome? naming.refused? = none)
    (hclosed : document.StringsClosed) :
    ∃ migration after,
      migrate naming renameReferences text = .ok migration ∧
        Document.read migration.text = .ok after ∧ after.StringsClosed ∧
        List.Forall₂ Block.KeepsDatabaseNames document.declarations after.declarations := by
  obtain ⟨segments, records, hmigrate, hchanges, hreread⟩ :=
    migrate_reads renameReferences hread hnaming
  have hidentifiers := hchanges.forall_records fun _ _ _ change => change.identifier
  obtain ⟨hready, hsegments, hkeep⟩ :=
    hchanges.keepDatabaseNames (referenceRule_names hidentifiers renameReferences)
      (Document.ready_of_read hread) hclosed
  have hreadAs := Document.declarations_readAs hready (Document.render ⟨segments⟩) 0
  refine ⟨_, _, hmigrate, hreread, stringsClosed_readAs hreadAs hsegments, ?_⟩
  exact forall₂_compose hkeep hreadAs fun _ _ _ => Block.KeepsDatabaseNames.readAs

structure MigrationStep where
  tableCase : Text → Text
  fieldCase : Text → Text
  tableInflection : Text → Text
  renameReferences : Bool

def MigrationStep.run (step : MigrationStep) (text : Text) : Except MigrationError Text :=
  (migrate (.ofNames step.tableCase step.fieldCase step.tableInflection) step.renameReferences
    text).map Migration.text

/-- Each migration is given the text that the one before it left. -/
def migrateAll (steps : List MigrationStep) (text : Text) : Except MigrationError Text :=
  steps.foldlM (fun text step => step.run text) text

theorem Block.KeepsDatabaseNames.refl (block : Block) : block.KeepsDatabaseNames block :=
  ⟨rfl, rfl, .refl _, List.forall₂_same.mpr fun _ _ => ⟨rfl, .refl _⟩⟩

/-- No sequence of migrations changes a database name, records one twice, or leaves a text that is
not read. -/
theorem migrateAll_keepsDatabaseNames (steps : List MigrationStep) {text : Text}
    {document : Document} (hread : Document.read text = .ok document)
    (hclosed : document.StringsClosed) :
    ∃ final after,
      migrateAll steps text = .ok final ∧ Document.read final = .ok after ∧
        List.Forall₂ Block.KeepsDatabaseNames document.declarations after.declarations := by
  induction steps generalizing text document with
  | nil =>
      refine ⟨text, document, rfl, hread, ?_⟩
      exact List.forall₂_same.mpr fun block _ => .refl block
  | cons step steps ih =>
      obtain ⟨migration, middle, hmigrate, hmiddle, hstrings, hkeep⟩ :=
        migrate_keeps step.renameReferences hread
          (by simp : document.blocks.findSome?
            (Naming.ofNames step.tableCase step.fieldCase step.tableInflection).refused? = none)
          hclosed
      -- What the first migration leaves is read with closed strings again, so the others follow.
      obtain ⟨final, after, hrun, hafter, hrest⟩ := ih hmiddle hstrings
      refine ⟨final, after, ?_, hafter, ?_⟩
      · rw [migrateAll, List.foldlM_cons, MigrationStep.run, hmigrate]
        exact hrun
      · exact forall₂_compose hkeep hrest fun _ _ _ => Block.KeepsDatabaseNames.trans

/-- Everything is renamed twice, in a text where some names are recorded already, strings hold
slashes, and a block starts on its header line. -/
theorem migrateAll_keepsDatabaseNames_twice :
    let model : Header := { keyword := "model".toList, name := "a".toList }
    let enum : Header := { keyword := "enum".toList, name := "g".toList }
    let pieces : List Piece := [
      .block model " // b\r\n  c a? @map(\"//d\")// e\r\n  f String// \"\r\n".toList,
      .passthrough ['\n'],
      .block enum " H\n@@map(\"i\")".toList]
    let text := pieces.flatMap Piece.render
    let document := (Piece.document text pieces).classify
    let steps : List MigrationStep := [
      ⟨('X' :: ·), ('y' :: ·), id, true⟩,
      ⟨id, ('z' :: ·), ('W' :: ·), false⟩]
    Document.read text = .ok document ∧ document.StringsClosed ∧
      ∃ final after,
        migrateAll steps text = .ok final ∧ Document.read final = .ok after ∧
          List.Forall₂ Block.KeepsDatabaseNames document.declarations after.declarations := by
  intro model enum pieces text document steps
  have hread : Document.read text = .ok document := by decide +kernel
  have hclosed : document.StringsClosed := by decide +kernel
  exact ⟨hread, hclosed, migrateAll_keepsDatabaseNames steps hread hclosed⟩

end SchemaCase
