import SchemaCase.Proofs.Rename.Idempotence
import SchemaCase.Proofs.Rename.References

/-! The records of a migration are the differences between the names that its text had and those
that its result has: no name changes without a record, and no record is made of anything else. -/

namespace SchemaCase

/-- The record of a name that became another; a name that stayed has none. -/
def Record.ofNames (scope : Scope) (block name newName : Text) (mapped : Bool) : List Record :=
  if newName = name then [] else [⟨scope, block, name, newName, mapped⟩]

def Line.report (block : Text) (line renamed : Line) : List Record :=
  Record.ofNames .field block (line.fieldName.getD []) (renamed.fieldName.getD [])
    line.mapLiteral.isNone

def Block.report (block renamed : Block) : List Record :=
  Record.ofNames (.ofBlockKind block.kind) renamed.name block.name renamed.name
      (block.findAttribute? "map".toList).isNone ++
    (List.zipWith (Line.report renamed.name) block.fields renamed.fields).flatten

def Document.report (document renamed : Document) : List Record :=
  (List.zipWith Block.report document.declarations renamed.declarations).flatten

/-- A name stays, or it becomes the identifier that `rule` makes of it. -/
inductive NamedBy (rule : Text → Text) (name : Text) : Text → Prop
  | kept : NamedBy rule name name
  | renamed (identifier : isIdentifier (rule name)) : NamedBy rule name (rule name)

def Line.NamedBy (rule : Text → Text) (line renamed : Line) : Prop :=
  ∃ name newName, line.fieldName = some name ∧ renamed.fieldName = some newName ∧
    SchemaCase.NamedBy rule name newName

/-- Where the names in a declaration come from. The values of an enum keep theirs. -/
structure Block.NamedBy (tableCase fieldCase tableInflection : Text → Text)
    (block renamed : Block) : Prop where
  kind : renamed.kind = block.kind
  name : SchemaCase.NamedBy (block.kind.nameBy tableCase tableInflection) block.name renamed.name
  fields : block.kind = .model →
    List.Forall₂ (Line.NamedBy fieldCase) block.fields renamed.fields
  values : block.kind = .enum →
    List.Forall₂ (fun line other => other.fieldName = line.fieldName) block.fields renamed.fields

@[simp] theorem Record.ofNames_self (scope : Scope) (block name : Text) (mapped : Bool) :
    ofNames scope block name name mapped = [] :=
  if_pos rfl

theorem Record.ofNames_of_ne {name newName : Text} (scope : Scope) (block : Text) (mapped : Bool)
    (h : newName ≠ name) :
    ofNames scope block name newName mapped = [⟨scope, block, name, newName, mapped⟩] :=
  if_neg h

theorem Changes.records_eq_flatten {α β : Type} {Change : α → β → List Record → Prop}
    {report : α → β → List Record} {items : List α} {changed : List β} {records : List Record}
    (h : Changes Change items changed records)
    (hstep : ∀ item ∈ items, ∀ after records, Change item after records →
      records = report item after) :
    records = (List.zipWith report items changed).flatten := by
  induction h with
  | nil => rfl
  | cons head tail ih =>
      rw [List.forall_mem_cons] at hstep
      rw [List.zipWith_cons_cons, List.flatten_cons, ← hstep.1 _ _ head, ← ih hstep.2]

theorem LineChange.records_eq {rule newType? : Text → Option Text} {block : Text}
    {line after : Line} {records : List Record}
    (h : LineChange rule newType? block line after records) (hfield : line.isField) :
    records = line.report block after := by
  cases h with
  | other hother => simp [hother] at hfield
  | @kept parts terminator literal hparts =>
      exact (Record.ofNames_self .field block parts.name literal.isNone).symm
  | @renamed parts terminator newName literal hparts hrule hidentifier hdiffers =>
      exact (Record.ofNames_of_ne .field block literal.isNone hdiffers).symm

theorem Changes.records_eq_lines {rule newType? : Text → Option Text} {block : Text}
    {lines changed : List Line} {records : List Record}
    (h : Changes (LineChange rule newType? block) lines changed records) :
    records = (List.zipWith (Line.report block) (lines.filter Line.isField)
      (changed.filter Line.isField)).flatten :=
  h.fieldLines.records_eq_flatten fun _ hline _ _ change =>
    change.records_eq (List.mem_filter.mp hline).2

theorem BlockChange.records_eq {naming : Naming} {newType? : Text → Option Text}
    {block after : Block} {records : List Record}
    (h : BlockChange naming newType? block after records) : records = block.report after := by
  unfold Block.report
  cases h with
  | kept lines =>
      rw [Record.ofNames_self]
      exact lines.records_eq_lines
  | renamed hrule hidentifier hdiffers hmap lines =>
      have hmapped : (block.findAttribute? "map".toList).isNone = false := by
        rw [Option.isNone_eq_false_iff, hmap]
      rw [hmapped, Record.ofNames_of_ne _ _ _ hdiffers]
      exact congrArg _ lines.records_eq_lines
  | @mapped newName changed inserted records hrule hidentifier hdiffers hmap lines insertion =>
      have hlines := lines.records_eq_lines
      rw [← insertion.fields] at hlines
      rw [hmap, Record.ofNames_of_ne _ _ _ hdiffers]
      exact congrArg _ hlines

section Names

variable {tableCase fieldCase tableInflection : Text → Text} {newType? : Text → Option Text}

theorem LineChange.namedBy {block : Text} {line after : Line} {records : List Record}
    (h : LineChange ((Naming.ofNames tableCase fieldCase tableInflection).fieldRule .model)
      newType? block line after records) (hfield : line.isField) :
    line.NamedBy fieldCase after := by
  cases h with
  | other hother => simp [hother] at hfield
  | @kept parts terminator literal hparts => exact ⟨parts.name, parts.name, rfl, rfl, .kept⟩
  | @renamed parts terminator newName literal hparts hrule hidentifier hdiffers =>
      obtain rfl : fieldCase parts.name = newName := Option.some.inj hrule
      exact ⟨parts.name, _, rfl, rfl, .renamed hidentifier⟩

theorem LineChange.keepsValue {naming : Naming} {block : Text} {line after : Line}
    {records : List Record}
    (h : LineChange (naming.fieldRule .enum) newType? block line after records) :
    after.fieldName = line.fieldName := by
  cases h with
  | other hother => rfl
  | kept hparts => rfl
  | renamed hparts hrule hidentifier hdiffers => cases hrule

/-- The lines of a block change under the name that it has in the end. -/
theorem BlockChange.fieldLines {naming : Naming} {block after : Block} {records : List Record}
    (h : BlockChange naming newType? block after records) :
    ∃ records, Changes (LineChange (naming.fieldRule block.kind) newType? after.name)
      block.fields after.fields records := by
  cases h with
  | kept lines => exact ⟨_, lines.fieldLines⟩
  | renamed hrule hidentifier hdiffers hmap lines => exact ⟨_, lines.fieldLines⟩
  | mapped hrule hidentifier hdiffers hmap lines insertion =>
      have hlines := lines.fieldLines
      rw [← insertion.fields] at hlines
      exact ⟨_, hlines⟩

theorem BlockChange.name_namedBy {block after : Block} {records : List Record}
    (h : BlockChange (.ofNames tableCase fieldCase tableInflection) newType? block after records) :
    NamedBy (block.kind.nameBy tableCase tableInflection) block.name after.name := by
  cases h with
  | kept lines => exact .kept
  | renamed hrule hidentifier hdiffers hmap lines =>
      rw [Naming.blockRule_ofNames] at hrule
      obtain rfl := Option.some.inj hrule
      exact .renamed hidentifier
  | mapped hrule hidentifier hdiffers hmap lines insertion =>
      rw [Naming.blockRule_ofNames] at hrule
      obtain rfl := Option.some.inj hrule
      exact .renamed hidentifier

theorem BlockChange.namedBy {block after : Block} {records : List Record}
    (h : BlockChange (.ofNames tableCase fieldCase tableInflection) newType? block after records) :
    block.NamedBy tableCase fieldCase tableInflection after := by
  obtain ⟨_, hlines⟩ := h.fieldLines
  refine ⟨h.kind_eq, h.name_namedBy, fun hmodel => ?_, fun henum => ?_⟩
  · rw [hmodel] at hlines
    exact hlines.forall₂ fun _ hline _ _ change => change.namedBy (List.mem_filter.mp hline).2
  · rw [henum] at hlines
    exact hlines.forall₂ fun _ _ _ _ change => change.keepsValue

end Names

theorem Line.SameParts.fieldName {line read : Line} (h : line.SameParts read) :
    read.fieldName = line.fieldName := by
  obtain ⟨literal, rfl⟩ := h
  rfl

theorem Block.Rereads.report {renamed read : Block} (h : renamed.Rereads read)
    (hdeclaration : renamed.isDeclaration) (block : Block) :
    block.report read = block.report renamed := by
  have hname : read.name = renamed.name := congrArg Header.name h.header
  have hfields : List.zipWith (Line.report renamed.name) block.fields read.fields =
      List.zipWith (Line.report renamed.name) block.fields renamed.fields := by
    refine zipWith_congr_right _ ((h.fields hdeclaration).imp fun line other hsame first => ?_)
    rw [Line.report, Line.report, hsame.fieldName]
  rw [Block.report, Block.report, hname, hfields]

theorem Block.NamedBy.reread {tableCase fieldCase tableInflection : Text → Text}
    {block renamed read : Block} (h : block.NamedBy tableCase fieldCase tableInflection renamed)
    (hread : renamed.Rereads read) (hdeclaration : renamed.isDeclaration) :
    block.NamedBy tableCase fieldCase tableInflection read := by
  have hfields := hread.fields hdeclaration
  have hname : read.name = renamed.name := congrArg Header.name hread.header
  refine ⟨hread.kind.trans h.kind, hname ▸ h.name, fun hmodel => ?_, fun henum => ?_⟩
  · refine forall₂_compose (h.fields hmodel) hfields ?_
    rintro line other last ⟨name, newName, hline, hother, hnamed⟩ hsame
    exact ⟨name, newName, hline, hsame.fieldName.trans hother, hnamed⟩
  · exact forall₂_compose (h.values henum) hfields fun _ _ _ hkeeps hsame =>
      hsame.fieldName.trans hkeeps

/-- A migration records the names that differ between its text and its result, and nothing else.
Every name that differs is the one that the functions give. -/
theorem migrate_records_eq_report (tableCase fieldCase tableInflection : Text → Text)
    (renameReferences : Bool) {text : Text} {document : Document}
    (hread : Document.read text = .ok document) :
    ∃ migration after,
      migrate (.ofNames tableCase fieldCase tableInflection) renameReferences text =
          .ok migration ∧
        Document.read migration.text = .ok after ∧
        migration.records = document.report after ∧
        List.Forall₂ (Block.NamedBy tableCase fieldCase tableInflection)
          document.declarations after.declarations := by
  obtain ⟨segments, records, after, hmigrate, hchanges, -, hreread, hblocks⟩ :=
    migrate_renames renameReferences hread
      (by simp : document.blocks.findSome?
        (Naming.ofNames tableCase fieldCase tableInflection).refused? = none)
  have hdeclarations := hchanges.declarations
  have hrereads : List.Forall₂ (fun renamed read => renamed.isDeclaration ∧ renamed.Rereads read)
      (Document.declarations ⟨segments⟩) after.declarations := by
    rw [List.forall₂_and_left]
    refine ⟨fun block hblock => (List.mem_filter.mp hblock).2, List.rel_filter ?_ hblocks⟩
    intro renamed read hread
    simp only [Block.isDeclaration, hread.kind]
  refine ⟨_, after, hmigrate, hreread, ?_, ?_⟩
  · calc records
        = (List.zipWith Block.report document.declarations
            (Document.declarations ⟨segments⟩)).flatten :=
          hdeclarations.records_eq_flatten fun _ _ _ _ change => change.records_eq
      _ = document.report after :=
          congrArg List.flatten (zipWith_congr_right document.declarations
            (hrereads.imp fun _ _ hread => hread.2.report hread.1)).symm
  · refine forall₂_compose (hdeclarations.forall₂ fun _ _ _ _ change => change.namedBy) hrereads ?_
    exact fun _ _ _ hnamed hread => hnamed.reread hread.2 hread.1

/-- One field is renamed and one that has a database name takes the name that was given up; a third
is refused a name in use, and what is computed for a fourth is no name. An enum with a database name
is renamed, its value is not. -/
theorem migrate_records_eq_report_mixed :
    let fieldCase : Text → Text := fun name =>
      if name = ['c'] then ['1'] else if name = ['e'] then ['d'] else ['g']
    let model : Header := { keyword := "model".toList, name := ['a'] }
    let enum : Header := { keyword := "enum".toList, name := ['i'] }
    let pieces : List Piece := [
      .block model "\n  c Int\n  d a?\n  e Int @map(\"f\")\n  h i // k\n".toList,
      .passthrough ['\n'],
      .block enum "\r\n  c @map(\"j\")\r\n  @@map(\"k\")\r\n".toList]
    let text := pieces.flatMap Piece.render
    let document := (Piece.document text pieces).classify
    Document.read text = .ok document ∧
      ∃ migration after,
        migrate (.ofNames ('X' :: ·) fieldCase (· ++ ['s'])) true text = .ok migration ∧
          Document.read migration.text = .ok after ∧
          migration.records = document.report after ∧
          List.Forall₂ (Block.NamedBy ('X' :: ·) fieldCase (· ++ ['s']))
            document.declarations after.declarations := by
  intro fieldCase model enum pieces text document
  have hread : Document.read text = .ok document := by decide +kernel
  exact ⟨hread, migrate_records_eq_report ('X' :: ·) fieldCase (· ++ ['s']) true hread⟩

end SchemaCase
