import SchemaCase.Proofs.Rename.Outcome

/-! Types follow the declarations that they name. All renames of a migration come out as one
substitution, whatever names they pass on to each other. -/

namespace SchemaCase

/-- The type of a field line follows the declarations `before`, which are `after` in the end. -/
structure Line.FollowsTypes (before after : List Block) (line renamed : Line) : Prop where
  declared : ∀ old new, (old, new) ∈ before.zip after → line.typeToken? = some old.name →
    renamed.typeToken? = some new.name
  foreign : ∀ token, line.typeToken? = some token → (∀ block ∈ before, block.name ≠ token) →
    renamed.typeToken? = some token
  untyped : line.typeToken? = none → renamed.typeToken? = none

theorem typeToken_retype {newType? : Text → Option Text}
    (hnew : ∀ token name, newType? token = some name → Text.IsName name) (rest : Text) :
    (Text.readName? (retype newType? rest)).map Prod.fst =
      ((Text.readName? rest).map Prod.fst).map fun token => (newType? token).getD token := by
  unfold retype
  cases hread : Text.readName? rest with
  | none => simp [hread]
  | some found =>
      obtain ⟨token, behind⟩ := found
      obtain ⟨-, htoken, hbehind⟩ := Text.readName?_sound hread
      have hname : Text.IsName ((newType? token).getD token) := by
        cases htype : newType? token with
        | none => exact htoken
        | some name => exact hnew token name htype
      simp [Text.readName?_append hname hbehind]

theorem typeToken_annotate {parts : FieldParts} (h : parts.WellFormed) (name : Text) :
    (Text.readName? (annotate name parts.rest)).map Prod.fst =
      (Text.readName? parts.rest).map Prod.fst := by
  obtain ⟨code, blanks, comment, hsplit⟩ := exists_codeSplit parts.rest
  obtain ⟨token, tail, -, hread, hannotated⟩ | ⟨hread, hannotated⟩ :=
    h.readName?_annotate hsplit name
  · rw [hread, hannotated]
    rfl
  · rw [hread, hannotated]

def Line.Retypes (newType? : Text → Option Text) (line renamed : Line) : Prop :=
  renamed.typeToken? = line.typeToken?.map fun token => (newType? token).getD token

section Names

variable {naming : Naming} {newType? : Text → Option Text}
  (hnew : ∀ token name, newType? token = some name → Text.IsName name)

include hnew

theorem LineChange.retypes {rule : Text → Option Text} {block : Text} {line after : Line}
    {records : List Record} (h : LineChange rule newType? block line after records)
    (hfield : line.isField) : line.Retypes newType? after := by
  cases h with
  | other hother => simp [hother] at hfield
  | @kept parts terminator literal hparts => exact typeToken_retype hnew parts.rest
  | @renamed parts terminator newName literal hparts hrule hidentifier hdiffers =>
      refine (typeToken_retype hnew (parts.recordedRest literal)).trans ?_
      congr 1
      cases literal with
      | none => exact typeToken_annotate hparts parts.name
      | some literal => rfl

theorem Changes.retypes {rule : Text → Option Text} {block : Text} {lines changed : List Line}
    {records : List Record} (h : Changes (LineChange rule newType? block) lines changed records) :
    List.Forall₂ (Line.Retypes newType?) (lines.filter Line.isField)
      (changed.filter Line.isField) :=
  h.fieldLines.forall₂ fun _ hline _ _ change =>
    change.retypes hnew (List.mem_filter.mp hline).2

theorem BlockChange.retypes {block after : Block} {records : List Record}
    (h : BlockChange naming newType? block after records) :
    List.Forall₂ (Line.Retypes newType?) block.fields after.fields := by
  cases h with
  | kept lines => exact lines.retypes hnew
  | renamed hrule hidentifier hdiffers hmap lines => exact lines.retypes hnew
  | mapped hrule hidentifier hdiffers hmap lines insertion =>
      rw [Block.fields, Block.fields]
      dsimp only
      rw [insertion.fields]
      exact lines.retypes hnew

end Names

theorem newBlockName?_append (records more : List Record) (name : Text) :
    newBlockName? (records ++ more) name =
      (newBlockName? more name).or (newBlockName? records name) := by
  simp [newBlockName?, List.find?_append, Option.map_or]

theorem newBlockName?_fields {records : List Record} (h : ∀ record ∈ records, record.scope = .field)
    (name : Text) : newBlockName? records name = none := by
  rw [newBlockName?, Option.map_eq_none_iff, List.find?_eq_none]
  intro record hrecord
  simp [h record (List.mem_reverse.mp hrecord)]

theorem Scope.ofBlockKind_ne_field (kind : BlockKind) : Scope.ofBlockKind kind ≠ .field := by
  unfold ofBlockKind
  split <;> decide

theorem newBlockName?_cons_block {records : List Record} {kind : BlockKind}
    {oldName newName : Text} {mapped : Bool} (h : ∀ record ∈ records, record.scope = .field)
    (name : Text) :
    newBlockName? (⟨.ofBlockKind kind, newName, oldName, newName, mapped⟩ :: records) name =
      if oldName = name then some newName else none := by
  have hscope := Scope.ofBlockKind_ne_field kind
  rw [← List.singleton_append, newBlockName?_append, newBlockName?_fields h, Option.none_or]
  split
  · next hname => simp [newBlockName?, hscope, hname]
  · next hname => simp [newBlockName?, hname]

theorem Changes.scope_field {rule newType? : Text → Option Text} {block : Text}
    {lines changed : List Line} {records : List Record}
    (h : Changes (LineChange rule newType? block) lines changed records) :
    ∀ record ∈ records, record.scope = .field := by
  refine h.forall_records fun line after records change => ?_
  cases change <;> simp

theorem BlockChange.newBlockName? {naming : Naming} {newType? : Text → Option Text}
    {block after : Block} {records : List Record}
    (h : BlockChange naming newType? block after records) (name : Text) :
    SchemaCase.newBlockName? records name =
      if block.name = name ∧ after.name ≠ block.name then some after.name else none := by
  cases h with
  | kept lines =>
      rw [newBlockName?_fields lines.scope_field, if_neg]
      exact fun h => h.2 rfl
  | renamed hrule hidentifier hdiffers hmap lines =>
      rw [newBlockName?_cons_block lines.scope_field]
      simp [hdiffers]
  | mapped hrule hidentifier hdiffers hmap lines insertion =>
      rw [newBlockName?_cons_block lines.scope_field]
      simp [hdiffers]

section Segments

variable {naming : Naming} {newType? : Text → Option Text} {segments changed : List Segment}
  {records : List Record}

/-- The records of a schema are those of its declarations. -/
theorem Changes.declarations
    (h : Changes (SegmentChange naming newType?) segments changed records) :
    Changes (fun block => BlockChange naming (block.typeRule newType?) block)
      (Document.declarations ⟨segments⟩) (Document.declarations ⟨changed⟩) records := by
  induction h with
  | nil => exact .nil
  | cons head tail ih =>
      cases head with
      | passthrough => exact ih
      | other hdeclaration =>
          rw [Document.declarations_cons_other hdeclaration,
            Document.declarations_cons_other hdeclaration]
          exact ih
      | @declaration block after records hdeclaration change =>
          have hafter : after.isDeclaration := by rwa [Block.isDeclaration, change.kind_eq]
          rw [Document.declarations_cons hdeclaration, Document.declarations_cons hafter]
          exact .cons change ih

/-- Names that no declaration has stay what they are. -/
theorem Changes.newBlockName?_foreign {blocks renamed : List Block}
    (h : Changes (fun block => BlockChange naming (block.typeRule newType?) block) blocks renamed
      records) {name : Text} (hforeign : ∀ block ∈ blocks, block.name ≠ name) :
    newBlockName? records name = none := by
  induction h with
  | nil => rfl
  | cons change tail ih =>
      rw [List.forall_mem_cons] at hforeign
      rw [newBlockName?_append, ih hforeign.2, change.newBlockName?,
        if_neg fun h => hforeign.1 h.1]
      rfl

/-- Each declaration is found under its old name, with its new one. -/
theorem Changes.newBlockName?_declared {blocks renamed : List Block}
    (h : Changes (fun block => BlockChange naming (block.typeRule newType?) block) blocks renamed
      records) (hdistinct : (blocks.map (·.name)).Nodup) :
    List.Forall₂
      (fun block after => (newBlockName? records block.name).getD block.name = after.name)
      blocks renamed := by
  induction h with
  | nil => exact .nil
  | @cons block after rest renamed records more change tail ih =>
      rw [List.map_cons, List.nodup_cons] at hdistinct
      have hothers : ∀ other ∈ rest, other.name ≠ block.name :=
        fun other hother heq => hdistinct.1 (heq ▸ List.mem_map_of_mem hother)
      refine .cons ?_ ?_
      · -- The later records say nothing about this name.
        rw [newBlockName?_append, tail.newBlockName?_foreign hothers, Option.none_or,
          change.newBlockName?]
        split
        · rfl
        · next hkept => exact (by simpa using hkept : after.name = block.name).symm
      · refine ((List.forall₂_and_left _ _).mpr ⟨hothers, ih hdistinct.2⟩).imp ?_
        rintro other renamed ⟨hother, hrenamed⟩
        rw [newBlockName?_append, change.newBlockName?, if_neg fun h => hother h.1.symm,
          Option.or_none]
        exact hrenamed

/-- The declarations of the schema that is read again. -/
theorem rereads_declarations {after : Document}
    (h : List.Forall₂ Block.Rereads (Document.blocks ⟨changed⟩) after.blocks) :
    List.Forall₂ Block.Rereads (Document.declarations ⟨changed⟩) after.declarations := by
  refine List.rel_filter ?_ h
  intro block read hblock
  simp only [Block.isDeclaration, hblock.kind]

/-- The fields of models have the types that the records give them. -/
theorem Changes.retypesFields
    (h : Changes (SegmentChange naming (newBlockName? records)) segments changed records)
    {after : Document}
    (hrereads : List.Forall₂ Block.Rereads (Document.blocks ⟨changed⟩) after.blocks) :
    List.Forall₂ (fun block read => read.kind = block.kind ∧
        (block.kind = .model →
          List.Forall₂ (Line.Retypes (newBlockName? records)) block.fields read.fields))
      (Document.declarations ⟨segments⟩) after.declarations := by
  have hnew := referenceRule_names (h.forall_records fun _ _ _ change => change.identifier) true
  have hblocks : List.Forall₂ (fun block renamed => ∃ blockRecords,
      BlockChange naming (block.typeRule (newBlockName? records)) block renamed blockRecords)
      (Document.declarations ⟨segments⟩) (Document.declarations ⟨changed⟩) :=
    h.declarations.forall₂ fun _ _ _ blockRecords change => ⟨blockRecords, change⟩
  refine forall₂_compose hblocks (rereads_declarations hrereads) ?_
  rintro block renamed read ⟨blockRecords, change⟩ hread
  refine ⟨hread.kind.trans change.kind_eq, fun hmodel => ?_⟩
  have hdeclaration : renamed.isDeclaration := by
    simp [Block.isDeclaration, change.kind_eq, hmodel, BlockKind.isDeclaration]
  rw [Block.typeRule, if_pos hmodel] at change
  refine forall₂_compose (change.retypes hnew) (hread.fields hdeclaration) ?_
  rintro line renamed _ hline ⟨literal, rfl⟩
  exact hline

end Segments

theorem Document.declarations_nodup {document : Document} (h : document.takenNames.Nodup) :
    (document.declarations.map (·.name)).Nodup := by
  rw [takenNames_eq] at h
  refine h.sublist (List.Sublist.map _ ?_)
  exact List.monotone_filter_right _ fun block hdeclaration => by
    simpa using BlockKind.isSettings_of_isDeclaration hdeclaration

theorem Line.Retypes.follows {newType? : Text → Option Text} {before after : List Block}
    {line renamed : Line} (h : line.Retypes newType? renamed)
    (hdeclared : List.Forall₂ (fun old new => (newType? old.name).getD old.name = new.name)
      before after)
    (hforeign : ∀ token, (∀ block ∈ before, block.name ≠ token) → newType? token = none) :
    line.FollowsTypes before after renamed := by
  constructor
  · intro old new hmem htoken
    have hname := (List.forall₂_iff_zip.mp hdeclared).2 hmem
    rw [h, htoken, Option.map_some, hname]
  · intro token htoken hother
    rw [h, htoken, Option.map_some, hforeign token hother]
    rfl
  · intro hnone
    rw [h, hnone]
    rfl

/-- Where the names of blocks are distinct, the type of each model field is renamed to the new name
of the declaration that it names, and types that name none stay. -/
theorem migrate_typesFollow (tableCase fieldCase tableInflection : Text → Text) {text : Text}
    {document : Document} (hread : Document.read text = .ok document)
    (hdistinct : document.takenNames.Nodup) :
    ∃ migration after,
      migrate (.ofNames tableCase fieldCase tableInflection) true text = .ok migration ∧
        Document.read migration.text = .ok after ∧
        List.Forall₂ (fun block renamed => renamed.kind = block.kind ∧
          (block.kind = .model →
            List.Forall₂ (Line.FollowsTypes document.declarations after.declarations)
              block.fields renamed.fields))
          document.declarations after.declarations := by
  obtain ⟨segments, records, after, hmigrate, hchanges, -, hreread, hblocks⟩ :=
    migrate_renames true hread
      (by simp : document.blocks.findSome?
        (Naming.ofNames tableCase fieldCase tableInflection).refused? = none)
  have hdeclared : List.Forall₂
      (fun block read => (newBlockName? records block.name).getD block.name = read.name)
      document.declarations after.declarations :=
    forall₂_compose
      (hchanges.declarations.newBlockName?_declared (Document.declarations_nodup hdistinct))
      (rereads_declarations hblocks) fun block renamed read hname hread =>
        hname.trans hread.sameNames.name.symm
  refine ⟨_, after, hmigrate, hreread, (hchanges.retypesFields hblocks).imp ?_⟩
  rintro block read ⟨hkind, hfields⟩
  refine ⟨hkind, fun hmodel => (hfields hmodel).imp fun line renamed hline => ?_⟩
  exact hline.follows hdeclared fun token => hchanges.declarations.newBlockName?_foreign

/-- One model takes the name that another gave up, an enum is refused it, and a type starts with
the name of a model. -/
theorem migrate_typesFollow_passedOn :
    let next : Text → Text := fun name => if name = ['b'] then ['z'] else ['b']
    let first : Header := { keyword := "model".toList, name := ['b'] }
    let second : Header := { keyword := "model".toList, name := ['a'] }
    let third : Header := { keyword := "enum".toList, name := ['c'] }
    let pieces : List Piece := [
      .block first "\n  d a?\n  e b[] // a\n  f c\n  g ab\n".toList, .passthrough ['\n'],
      .block second " ".toList, .passthrough ['\n'], .block third " D".toList]
    let text := pieces.flatMap Piece.render
    let document := (Piece.document text pieces).classify
    Document.read text = .ok document ∧ document.takenNames.Nodup ∧
      ∃ migration after,
        migrate (.ofNames next id id) true text = .ok migration ∧
          Document.read migration.text = .ok after ∧
          List.Forall₂ (fun block renamed => renamed.kind = block.kind ∧
            (block.kind = .model →
              List.Forall₂ (Line.FollowsTypes document.declarations after.declarations)
                block.fields renamed.fields))
            document.declarations after.declarations := by
  intro next first second third pieces text document
  have hread : Document.read text = .ok document := by decide +kernel
  have hdistinct : document.takenNames.Nodup := by decide +kernel
  exact ⟨hread, hdistinct, migrate_typesFollow next id id hread hdistinct⟩

end SchemaCase
