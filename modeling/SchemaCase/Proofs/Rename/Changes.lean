import SchemaCase.Proofs.Rename.Fields

/-! What a migration does to a schema in memory: which lines, blocks and segments it may change and
the records it makes of that. No migration of a schema that was read fails. -/

namespace SchemaCase

open Source

namespace Block

theorem isBlank_of_mem_innerIndent (block : Block) : ∀ c ∈ block.innerIndent, Text.isBlank c := by
  unfold innerIndent
  split
  · dsimp only
    split
    · exact List.all_eq_true.mp (by decide)
    · exact Text.isBlank_leadingBlanks _
  · exact List.all_eq_true.mp (by decide)

theorem trim_mapLine {indent : Text} (hindent : ∀ c ∈ indent, Text.isBlank c) (name : Text) :
    Text.trim (indent ++ '@' :: mapCall name) = '@' :: mapCall name := by
  have hcall : '@' :: mapCall name = ("@@map(\"".toList ++ name ++ ['"']) ++ [')'] := by
    simp [mapCall_eq]
  have hsign : ∀ c ∈ ('@' :: mapCall name).head?, Text.isBlank c = false := by
    rintro c ⟨⟩
    decide
  rw [Text.trim, Text.trimStart_run hindent hsign, hcall, Text.trimEnd_concat (by decide)]

theorem blockAttributeName?_mapLine (name : Text) :
    blockAttributeName? (('@' :: mapCall name).drop 2) = some "map".toList := by
  have hname : ∀ c ∈ "ap".toList, (Text.isWordChar c || c == '.') = true :=
    List.all_eq_true.mp (by decide +kernel)
  have hparen : ∀ c ∈ ('(' :: '"' :: (name ++ ['"', ')'])).head?,
      (Text.isWordChar c || c == '.') = false := by
    rintro c ⟨⟩
    decide +kernel
  have hrun := Text.takeWhile_run hname hparen
  simp only [mapCall_eq, List.drop_succ_cons, List.drop_zero, blockAttributeName?]
  rw [if_pos (by decide)]
  exact congrArg (fun tail => some ('m' :: tail)) hrun

theorem mapLine_eq (block : Block) (name : Text) :
    block.mapLine name =
      { text := block.innerIndent ++ '@' :: mapCall name
        terminator := block.innerTerminator
        kind := .blockAttribute
        attributeName := some "map".toList
        mapLiteral := MapCall.ofBlock? (block.innerIndent ++ '@' :: mapCall name) } := by
  have hname := blockAttributeName?_mapLine name
  have htrim := trim_mapLine block.isBlank_of_mem_innerIndent name
  have hslash : "//".toList.isPrefixOf ('@' :: mapCall name) = false := rfl
  have hat : "@@".toList.isPrefixOf ('@' :: mapCall name) = true := rfl
  simp only [mapLine, Line.classify, htrim, hslash, hat, hname]
  rfl

theorem mapLine_text (block : Block) (name : Text) :
    (block.mapLine name).text = block.innerIndent ++ '@' :: mapCall name := by
  rw [mapLine_eq]

@[simp] theorem mapLine_isField (block : Block) (name : Text) :
    (block.mapLine name).isField = false := by
  rw [mapLine_eq]
  rfl

theorem innerTerminator_cases {block : Block} (h : Line.IsBody block.lines) :
    block.innerTerminator = ['\n'] ∨ block.innerTerminator = ['\r', '\n'] := by
  unfold innerTerminator
  cases hfind : (block.lines.map (·.terminator)).find? fun terminator => !terminator.isEmpty with
  | none => exact .inl rfl
  | some terminator =>
      have hnonempty := List.find?_some hfind
      obtain ⟨line, hline, rfl⟩ := List.mem_map.mp (List.mem_of_find?_eq_some hfind)
      rcases h.terminator line hline with hempty | hterminator
      · simp [hempty] at hnonempty
      · exact hterminator

def headerEnd (block : Block) : Line :=
  { text := [], terminator := block.innerTerminator, kind := .blank }

end Block

namespace Naming

def blockRule (naming : Naming) (kind : BlockKind) (name : Text) : Option Text :=
  if kind = .model then (naming.model name).bind Value.name? else (naming.enum name).name?

def fieldRule (naming : Naming) (kind : BlockKind) (name : Text) : Option Text :=
  if kind = .model then (naming.field name).name? else none

end Naming

/-- Where the database name of a block goes: below a header line that keeps its contents, or below
an empty one. -/
inductive MapInsertion (block : Block) : List Line → List Line → Prop
  | below {first : Line} {rest : List Line} (notField : first.isField = false)
      (terminated : first.terminator ≠ []) :
      MapInsertion block (first :: rest) (first :: block.mapLine block.name :: rest)
  | headerEnd {lines : List Line} :
      MapInsertion block lines (block.headerEnd :: block.mapLine block.name :: lines)

theorem MapInsertion.fields {block : Block} {changed inserted : List Line}
    (h : MapInsertion block changed inserted) :
    inserted.filter Line.isField = changed.filter Line.isField := by
  have hmap := block.mapLine_isField block.name
  cases h with
  | below hfield hterminated => simp [hmap, hfield]
  | headerEnd =>
      have hend : block.headerEnd.isField = false := rfl
      simp [hmap, hend]

inductive BlockChange (naming : Naming) (newType? : Text → Option Text) :
    Block → Block → List Record → Prop
  | kept {block : Block} {changed : List Line} {records : List Record}
      (lines : Changes (LineChange (naming.fieldRule block.kind) newType? block.name)
        block.lines changed records) :
      BlockChange naming newType? block { block with lines := changed } records
  | renamed {block : Block} {newName : Text} {changed : List Line} {records : List Record}
      (byRule : naming.blockRule block.kind block.name = some newName)
      (identifier : isIdentifier newName)
      (differs : newName ≠ block.name)
      (hasMap : (block.findAttribute? "map".toList).isSome)
      (lines : Changes (LineChange (naming.fieldRule block.kind) newType? newName)
        block.lines changed records) :
      BlockChange naming newType? block { block with name := newName, lines := changed }
        (⟨.ofBlockKind block.kind, newName, block.name, newName, false⟩ :: records)
  | mapped {block : Block} {newName : Text} {changed inserted : List Line}
      {records : List Record}
      (byRule : naming.blockRule block.kind block.name = some newName)
      (identifier : isIdentifier newName)
      (differs : newName ≠ block.name)
      (noMap : block.findAttribute? "map".toList = none)
      (lines : Changes (LineChange (naming.fieldRule block.kind) newType? newName)
        block.lines changed records)
      (insertion : MapInsertion block changed inserted) :
      BlockChange naming newType? block { block with name := newName, lines := inserted }
        (⟨.ofBlockKind block.kind, newName, block.name, newName, true⟩ :: records)

/-- A block whose lines were told apart: what was read from them is what they say. -/
structure Block.Ready (block : Block) : Prop where
  header : block.toHeader.WellFormed
  isBody : Line.IsBody block.lines
  settled : ∀ line ∈ block.lines, line.bare.classify = line

theorem Block.Ready.hasParts {block : Block} (h : block.Ready) :
    ∀ line ∈ block.lines, line.HasParts := by
  intro line hline hfield
  have hsettled := h.settled line hline
  have hfeed : '\n' ∉ line.bare.text := h.isBody.oneLine line hline
  rw [← hsettled] at hfield
  obtain ⟨parts, hparts, htext⟩ := Line.exists_parts_of_isField hfeed hfield
  exact ⟨parts, _, _, hparts, hsettled.symm.trans (Line.classify_bare_field hparts htext)⟩

theorem Line.hasParts_of_not_isField {line : Line} (h : line.isField = false) : line.HasParts := by
  intro hfield
  rw [h] at hfield
  cases hfield

/-- A line with nothing but blanks is no field line. -/
theorem Line.HasParts.not_isField {line : Line} (h : line.HasParts)
    (hkind : Text.trim line.text = [] ∨ line.kind = .comment) : line.isField = false := by
  rw [Bool.eq_false_iff]
  intro hfield
  obtain ⟨parts, terminator, literal, hparts, rfl⟩ := h hfield
  rcases hkind with htrim | hcomment
  · obtain ⟨first, behind, hnonempty, -⟩ := Line.trim_field hparts
    rw [show (parts.line terminator literal).text = parts.text from rfl, hnonempty] at htrim
    cases htrim
  · cases hcomment

theorem Changes.of_cons_other {rule newType? : Text → Option Text} {block : Text} {line : Line}
    {lines changed : List Line} {records : List Record} (hfield : line.isField = false)
    (h : Changes (LineChange rule newType? block) (line :: lines) changed records) :
    ∃ rest, changed = line :: rest ∧
      Changes (LineChange rule newType? block) lines rest records := by
  cases h with
  | cons head tail =>
      cases head with
      | other _ => exact ⟨_, rfl, tail⟩
      | kept _ => cases hfield
      | renamed _ _ _ _ => cases hfield

namespace Block

theorem insertMap_cases {block : Block} (h : block.Ready) (name : Text) :
    ∃ top below,
      block.insertMap name = .ok { block with lines := top :: block.mapLine name :: below } ∧
        top.isField = false ∧
        (block.lines = top :: below ∧ top.terminator ≠ [] ∨
          top = block.headerEnd ∧ below = block.lines) := by
  obtain ⟨first, rest, hcons⟩ := List.exists_cons_of_ne_nil h.isBody.ne_nil
  simp only [insertMap, hcons]
  split
  · next hbelow =>
      simp only [Bool.and_eq_true, Bool.or_eq_true, Bool.not_eq_true', List.isEmpty_iff,
        List.isEmpty_eq_false_iff, beq_iff_eq] at hbelow
      have hfield := (h.hasParts first (by simp [hcons])).not_isField hbelow.2
      exact ⟨first, rest, rfl, hfield, .inl ⟨rfl, hbelow.1⟩⟩
  · exact ⟨block.headerEnd, first :: rest, rfl, rfl, .inr ⟨rfl, rfl⟩⟩

theorem renameFields_changes (block : Block) {rule : Text → Option Text} {plans : List Plan}
    (hlines : ∀ line ∈ block.lines, line.HasParts)
    (hplans : List.Forall₂ (fun line plan => plan.Follows rule (line.fieldName.getD []))
      block.fields plans) :
    ∃ changed records events,
      block.renameFields plans = ⟨{ block with lines := changed }, records, events, none⟩ ∧
        Changes (LineChange rule (fun _ => none) block.name) block.lines changed records := by
  obtain ⟨herror, hchanges⟩ := FieldEdits.of_changes block.name block.fieldNames hlines hplans
  refine ⟨_, _, (FieldEdits.of block.name block.fieldNames block.lines plans).events, ?_, hchanges⟩
  rw [renameFields, herror]

theorem insertMap_changes (newName : Text) {rule : Text → Option Text} {block : Block}
    {plans : List Plan} (h : block.Ready)
    (hplans : List.Forall₂ (fun line plan => plan.Follows rule (line.fieldName.getD []))
      block.fields plans) :
    ∃ edited changed inserted records events,
      block.insertMap block.name = .ok edited ∧
        { edited with name := newName }.renameFields plans =
          ⟨{ block with name := newName, lines := inserted }, records, events, none⟩ ∧
        Changes (LineChange rule (fun _ => none) newName) block.lines changed records ∧
        MapInsertion block changed inserted := by
  obtain ⟨top, below, hinsert, hfield, hcases⟩ := insertMap_cases h block.name
  have hmap := block.mapLine_isField block.name
  have hlines : ∀ line ∈ top :: block.mapLine block.name :: below, line.HasParts := by
    intro line hline
    rcases List.mem_cons.mp hline with rfl | hline
    · exact Line.hasParts_of_not_isField hfield
    rcases List.mem_cons.mp hline with rfl | hline
    · exact Line.hasParts_of_not_isField hmap
    apply h.hasParts
    rcases hcases with ⟨hcons, -⟩ | ⟨-, rfl⟩
    · rw [hcons]
      exact List.mem_cons_of_mem top hline
    · exact hline
  have hfields : (top :: block.mapLine block.name :: below).filter Line.isField =
      block.fields := by
    rcases hcases with ⟨hcons, -⟩ | ⟨-, rfl⟩
    · simp [fields, hcons, hfield]
    · simp [fields, hfield]
  rw [← hfields] at hplans
  obtain ⟨inserted, records, events, hrename, hchanges⟩ :=
    renameFields_changes
      { block with name := newName, lines := top :: block.mapLine block.name :: below }
      hlines hplans
  -- The top line and the inserted one are no field lines, so they come out as they went in.
  obtain ⟨tail, rfl, htail⟩ := hchanges.of_cons_other hfield
  obtain ⟨changed, rfl, hchanged⟩ := htail.of_cons_other hmap
  rcases hcases with ⟨hcons, hterminated⟩ | ⟨rfl, rfl⟩
  · refine ⟨_, top :: changed, _, records, events, hinsert, hrename, ?_, .below hfield hterminated⟩
    rw [hcons]
    exact .cons (.other hfield) hchanged
  · exact ⟨_, changed, _, records, events, hinsert, hrename, hchanged, .headerEnd⟩

private theorem rename_of_steps {block self after : Block} {plan : Plan} {plans : List Plan}
    {records more : List Record} {events further : List Event}
    (hself : block.renameSelf plan = ⟨self, records, events, none⟩)
    (hfields : self.renameFields plans = ⟨after, more, further, none⟩) :
    block.rename plan plans = ⟨after, records ++ more, events ++ further, none⟩ := by
  rw [rename, hself]
  dsimp only
  rw [hfields]

theorem rename_change {naming : Naming} {block : Block} {plan : Plan} {plans : List Plan}
    (h : block.Ready) (hplan : plan.Follows (naming.blockRule block.kind) block.name)
    (hplans : List.Forall₂
      (fun line plan => plan.Follows (naming.fieldRule block.kind) (line.fieldName.getD []))
      block.fields plans) :
    (block.rename plan plans).error = none ∧
      BlockChange naming (fun _ => none) block (block.rename plan plans).block
        (block.rename plan plans).records := by
  cases hchanged : plan.changed with
  | false =>
      obtain ⟨changed, records, events, hrename, hchanges⟩ :=
        renameFields_changes block h.hasParts hplans
      have hself : block.renameSelf plan = ⟨block, [], [], none⟩ := by
        simp [renameSelf, hchanged]
      rw [rename_of_steps hself hrename]
      exact ⟨rfl, .kept hchanges⟩
  | true =>
      obtain ⟨hrule, hidentifier, hdiffers⟩ := hplan.changed hchanged
      cases hmap : block.findAttribute? "map".toList with
      | some line =>
          obtain ⟨changed, records, events, hrename, hchanges⟩ :=
            renameFields_changes { block with name := plan.newName } h.hasParts hplans
          have hself : block.renameSelf plan =
              ⟨{ block with name := plan.newName },
                [⟨.ofBlockKind block.kind, plan.newName, block.name, plan.newName, false⟩],
                [.blockRenamed block.keyword block.name plan.newName], none⟩ := by
            simp only [renameSelf, hchanged, hmap, hplan.oldName]
            rfl
          rw [rename_of_steps hself hrename]
          exact ⟨rfl, .renamed hrule hidentifier hdiffers (by rw [hmap]; rfl) hchanges⟩
      | none =>
          obtain ⟨edited, changed, inserted, records, events, hinsert, hrename, hchanges,
            hinsertion⟩ := insertMap_changes plan.newName h hplans
          have hself : block.renameSelf plan =
              ⟨{ edited with name := plan.newName },
                [⟨.ofBlockKind block.kind, plan.newName, block.name, plan.newName, true⟩],
                [.blockRenamed block.keyword block.name plan.newName], none⟩ := by
            simp only [renameSelf, hchanged, hmap, hplan.oldName, Option.isNone_none, if_true,
              hinsert]
          rw [rename_of_steps hself hrename]
          exact ⟨rfl, .mapped hrule hidentifier hdiffers hmap hchanges hinsertion⟩

end Block

namespace BlockPlan

theorem propose_follows (naming : Naming) (block : Block) :
    (propose naming block).name.Follows (naming.blockRule block.kind) block.name ∧
      List.Forall₂
        (fun line plan => plan.Follows (naming.fieldRule block.kind) (line.fieldName.getD []))
        block.fields (propose naming block).fields := by
  unfold propose
  dsimp only
  split
  · next hmodel =>
      constructor
      · cases hname : naming.model block.name with
        | none => exact Plan.keep_follows _ _
        | some candidate =>
            apply Plan.ofCandidate_follows
            simp [Naming.blockRule, hmodel, hname]
      · simp only [List.map_map, List.forall₂_map_right_iff]
        apply List.forall₂_same.mpr
        intro line _
        apply Plan.ofCandidate_follows
        simp [Naming.fieldRule, hmodel]
  · next hmodel =>
      constructor
      · apply Plan.ofCandidate_follows
        simp [Naming.blockRule, hmodel]
      · simp only [List.map_map, List.forall₂_map_right_iff]
        apply List.forall₂_same.mpr
        intro line _
        exact Plan.keep_follows _ _

theorem settle_follows {rule : Text → Option Text} {block : Block} {plan : BlockPlan}
    (taken : List Text) (h : plan.name.Follows rule block.name) :
    (plan.settle taken block).name.Follows rule block.name := by
  unfold settle
  split
  · exact Plan.keep_follows rule block.name
  · exact h

theorem settle_fields (taken : List Text) (block : Block) (plan : BlockPlan) :
    (plan.settle taken block).fields = plan.fields := by
  unfold settle
  split <;> rfl

end BlockPlan

theorem Line.renameType?_other {line : Line} (h : line.isField = false)
    (newType? : Text → Option Text) : line.renameType? newType? = none := by
  simp [Line.renameType?, h]

theorem MapInsertion.retype {block : Block} {changed inserted : List Line}
    (h : MapInsertion block changed inserted) (newType? : Text → Option Text) :
    MapInsertion block (changed.map fun line => (line.renameType? newType?).getD line)
      (inserted.map fun line => (line.renameType? newType?).getD line) := by
  have hmap := Line.renameType?_other (block.mapLine_isField block.name) newType?
  cases h with
  | below hfield hterminated =>
      simp only [List.map_cons, hmap, Line.renameType?_other hfield, Option.getD_none]
      exact .below hfield hterminated
  | headerEnd =>
      have hend : block.headerEnd.renameType? newType? = none := Line.renameType?_other rfl newType?
      simp only [List.map_cons, hmap, hend, Option.getD_none]
      exact .headerEnd

theorem BlockChange.retype {naming : Naming} {block after : Block} {records : List Record}
    (h : BlockChange naming (fun _ => none) block after records) (newType? : Text → Option Text) :
    BlockChange naming newType? block (after.renameTypes newType?) records := by
  cases h with
  | kept lines => exact .kept (lines.map _ fun _ _ _ _ change => change.retype)
  | renamed byRule identifier differs hasMap lines =>
      exact .renamed byRule identifier differs hasMap
        (lines.map _ fun _ _ _ _ change => change.retype)
  | mapped byRule identifier differs noMap lines insertion =>
      exact .mapped byRule identifier differs noMap
        (lines.map _ fun _ _ _ _ change => change.retype) (insertion.retype newType?)

theorem BlockChange.kind_eq {naming : Naming} {newType? : Text → Option Text}
    {block after : Block} {records : List Record}
    (h : BlockChange naming newType? block after records) : after.kind = block.kind := by
  cases h <;> rfl

/-- Only models have fields whose types name blocks. -/
def Block.typeRule (newType? : Text → Option Text) (block : Block) : Text → Option Text :=
  if block.kind = .model then newType? else fun _ => none

theorem Block.typeRule_none (block : Block) : block.typeRule (fun _ => none) = fun _ => none := by
  unfold Block.typeRule
  split <;> rfl

inductive SegmentChange (naming : Naming) (newType? : Text → Option Text) :
    Segment → Segment → List Record → Prop
  | passthrough {text : Text} :
      SegmentChange naming newType? (.passthrough text) (.passthrough text) []
  | other {block : Block} (notDeclaration : block.isDeclaration = false) :
      SegmentChange naming newType? (.block block) (.block block) []
  | declaration {block after : Block} {records : List Record}
      (isDeclaration : block.isDeclaration)
      (change : BlockChange naming (block.typeRule newType?) block after records) :
      SegmentChange naming newType? (.block block) (.block after) records

theorem SegmentChange.retype {naming : Naming} {before after : Segment} {records : List Record}
    (h : SegmentChange naming (fun _ => none) before after records)
    (newType? : Text → Option Text) :
    SegmentChange naming newType? before
      (after.mapBlock (Block.renameTypesOfModel newType?)) records := by
  cases h with
  | passthrough => exact .passthrough
  | @other block notDeclaration =>
      have hkind : block.kind ≠ .model := by
        intro hmodel
        simp [Block.isDeclaration, hmodel, BlockKind.isDeclaration] at notDeclaration
      rw [Segment.mapBlock, Block.renameTypesOfModel, if_neg hkind]
      exact .other notDeclaration
  | @declaration block after records isDeclaration change =>
      refine .declaration isDeclaration ?_
      unfold Block.renameTypesOfModel Block.typeRule
      rw [change.kind_eq]
      rw [Block.typeRule_none] at change
      split
      · exact change.retype newType?
      · exact change

def Segment.Ready : Segment → Prop
  | .passthrough _ => True
  | .block content =>
      content.closing = ['\x7d'] ∧ content.kind = .ofKeyword content.keyword ∧
        (content.isDeclaration → content.Ready)

theorem Block.ready_classify {block : Block} {body : Text} (hheader : block.toHeader.WellFormed)
    (hlines : block.lines = Line.ofBody body) (hdeclaration : block.classify.isDeclaration) :
    block.classify.Ready := by
  have hkind : block.isDeclaration := by
    rwa [Block.isDeclaration, Block.classify_kind] at hdeclaration
  have hclassify : block.classify.lines = (Line.ofBody body).map Line.classify := by
    rw [Block.classify, if_pos hkind, hlines]
  refine ⟨by rwa [Block.classify_toHeader], hclassify ▸ Line.isBody_classify body, ?_⟩
  intro line hline
  rw [hclassify] at hline
  obtain ⟨member, hmember, rfl⟩ := List.mem_map.mp hline
  rw [Line.bare_classify, Line.bare_of_mem_ofBody hmember]

theorem Document.ready_of_read {text : Text} {document : Document}
    (h : Document.read text = .ok document) : ∀ segment ∈ document.segments, segment.Ready := by
  obtain ⟨pieces, hpieces, -, rfl⟩ := Document.read_sound h
  intro segment hsegment
  obtain ⟨parsed, hparsed, rfl⟩ := List.mem_map.mp hsegment
  obtain ⟨piece, hpiece, start, rfl⟩ := Piece.exists_of_mem_segments hparsed
  cases piece with
  | passthrough content => trivial
  | block header body =>
      refine ⟨Block.classify_closing _, ?_,
        Block.ready_classify (hpieces.block_of_mem hpiece).1 rfl⟩
      rw [Block.classify_kind, Block.classify_toHeader]

theorem PlannedSegment.apply_change (naming : Naming) {block : Block} (taken : List Text)
    (hready : block.Ready) :
    ∃ after records events,
      PlannedSegment.apply
          ⟨.block block, some ((BlockPlan.propose naming block).settle taken block)⟩ =
        .ok ⟨.block after, records, events⟩ ∧
        BlockChange naming (fun _ => none) block after records := by
  obtain ⟨hname, hfields⟩ := BlockPlan.propose_follows naming block
  have hsettled := BlockPlan.settle_follows taken hname
  rw [← BlockPlan.settle_fields taken block] at hfields
  obtain ⟨herror, hchange⟩ := Block.rename_change hready hsettled hfields
  let plan := (BlockPlan.propose naming block).settle taken block
  refine ⟨_, _, (block.rename plan.name plan.fields).events, ?_, hchange⟩
  simp only [apply, herror]
  rfl

theorem planSegments_changes (naming : Naming) (taken : List Text) {segments : List Segment}
    (h : ∀ segment ∈ segments, segment.Ready) :
    ∃ edited, (planSegments naming taken segments).mapM PlannedSegment.apply = .ok edited ∧
      Changes (SegmentChange naming fun _ => none) segments (edited.map (·.segment))
        (edited.flatMap (·.records)) := by
  induction segments generalizing taken with
  | nil => exact ⟨[], rfl, .nil⟩
  | cons segment rest ih =>
      have hrest := fun member hmember => h member (List.mem_cons_of_mem segment hmember)
      have hready := h segment List.mem_cons_self
      cases segment with
      | passthrough text =>
          obtain ⟨edited, hedited, hchanges⟩ := ih taken hrest
          refine ⟨{ segment := .passthrough text } :: edited, ?_, .cons .passthrough hchanges⟩
          rw [planSegments, List.mapM_cons, hedited]
          rfl
      | block block =>
          cases hdeclaration : block.isDeclaration with
          | false =>
              obtain ⟨edited, hedited, hchanges⟩ := ih taken hrest
              refine ⟨{ segment := .block block } :: edited, ?_,
                .cons (.other hdeclaration) hchanges⟩
              rw [planSegments, hdeclaration]
              simp only [Bool.false_eq_true, if_false, List.mapM_cons, hedited]
              rfl
          | true =>
              obtain ⟨after, records, events, happly, hchange⟩ :=
                PlannedSegment.apply_change naming taken (hready.2.2 hdeclaration)
              obtain ⟨edited, hedited, hchanges⟩ := ih
                (((BlockPlan.propose naming block).settle taken block).takenAfter taken) hrest
              refine ⟨⟨.block after, records, events⟩ :: edited, ?_,
                .cons (.declaration hdeclaration ?_) hchanges⟩
              · rw [planSegments, hdeclaration]
                simp only [if_true, List.mapM_cons, happly, hedited]
                rfl
              · rw [Block.typeRule_none]
                exact hchange

/-- The new names of types: those that the records of a migration give to blocks. -/
def referenceRule (records : List Record) : Bool → Text → Option Text
  | true => newBlockName? records
  | false => fun _ => none

theorem Block.renameTypesOfModel_none :
    Block.renameTypesOfModel (fun _ => none) = id := by
  have hline : ∀ line : Line, (line.renameType? fun _ => none).getD line = line := by
    intro line
    cases hread : Text.readName? line.rest <;> simp [Line.renameType?, hread]
  funext block
  simp [renameTypesOfModel, renameTypes, hline]

theorem Document.mapBlocks_id (document : Document) : document.mapBlocks id = document := by
  have hsegment : Segment.mapBlock id = id := by
    funext segment
    cases segment <;> rfl
  simp [mapBlocks, hsegment]

/-- A migration writes the segments that its plans give, with the types renamed last. -/
theorem migrate_edited {naming : Naming} {text : Text} {document : Document}
    {edited : List EditedSegment} (renameReferences : Bool)
    (hread : Document.read text = .ok document)
    (hnaming : document.blocks.findSome? naming.refused? = none)
    (hedited : (planSegments naming document.takenNames document.segments).mapM
      PlannedSegment.apply = .ok edited) :
    let records := edited.flatMap (·.records)
    let retyped := Block.renameTypesOfModel (referenceRule records renameReferences)
    migrate naming renameReferences text =
      .ok ⟨(Document.mapBlocks retyped ⟨edited.map (·.segment)⟩).render, records⟩ := by
  simp only [migrate, Migration.run, hread, hnaming, applyPlans, hedited]
  cases renameReferences with
  | true => rfl
  | false =>
      rw [referenceRule, Block.renameTypesOfModel_none, Document.mapBlocks_id]
      rfl

/-- A migration of a schema that was read changes its segments one by one. -/
theorem migrate_changes {naming : Naming} {text : Text} {document : Document}
    (renameReferences : Bool) (hread : Document.read text = .ok document)
    (hnaming : document.blocks.findSome? naming.refused? = none) :
    ∃ segments records,
      migrate naming renameReferences text = .ok ⟨Document.render ⟨segments⟩, records⟩ ∧
        Changes (SegmentChange naming (referenceRule records renameReferences))
          document.segments segments records := by
  obtain ⟨edited, hedited, hchanges⟩ := planSegments_changes naming document.takenNames
    (Document.ready_of_read hread)
  exact ⟨_, _, migrate_edited renameReferences hread hnaming hedited,
    hchanges.map _ fun _ _ _ _ change => change.retype _⟩

end SchemaCase
