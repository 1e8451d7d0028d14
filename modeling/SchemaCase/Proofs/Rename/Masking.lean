import SchemaCase.Proofs.Rename.DatabaseNames
import SchemaCase.Proofs.Rename.Outcome
import SchemaCase.Proofs.Rename.Totality
import SchemaCase.Proofs.Schema.SameCode

/-! Comments and the contents of strings never influence a rename: what a migration plans, and what
it tells of it, follows from the masked text. -/

namespace SchemaCase

open Source

namespace MapCall

theorem callAt?_isSome_iff (word : Text) (cells : List Cell) :
    (callAt? word cells).isSome ↔ (cells.map Cell.visible).take word.length = word ∧
      (((cells.map Cell.visible).drop word.length).dropWhile Text.isBlank).head? = some '(' := by
  rw [← List.map_take, ← List.map_drop, List.dropWhile_map, List.head?_map]
  unfold callAt?
  by_cases hword : (cells.take word.length).map Cell.visible = word
  · rw [if_pos hword]
    simp only [hword, true_and, Function.comp_def]
    cases (cells.drop word.length).dropWhile fun cell => Text.isBlank cell.visible with
    | nil => simp
    | cons cell rest => simp
  · rw [if_neg hword, iff_false_right (fun h => hword h.1)]
    simp

theorem calls_eq_nil_iff_of_visible {admits : Option Char → Bool} {word : Text}
    (previous : Option Char) {cells others : List Cell}
    (h : cells.map Cell.visible = others.map Cell.visible) :
    calls admits word previous cells = [] ↔ calls admits word previous others = [] := by
  induction cells generalizing previous others with
  | nil =>
      obtain rfl := List.map_eq_nil_iff.mp h.symm
      rfl
  | cons cell rest ih =>
      obtain ⟨cell', rest', rfl, hcell, hrest⟩ := List.map_eq_cons_iff.mp h.symm
      have hcall : callAt? word (cell :: rest) = none ↔ callAt? word (cell' :: rest') = none := by
        rw [← Option.not_isSome_iff_eq_none, ← Option.not_isSome_iff_eq_none,
          callAt?_isSome_iff, callAt?_isSome_iff, h]
      rw [calls, calls, List.append_eq_nil_iff, List.append_eq_nil_iff, hcell,
        ih (some cell.visible) hrest.symm]
      split
      · rw [Option.toList_eq_nil_iff, Option.toList_eq_nil_iff, hcall]
      · rfl

theorem inlineCalls_eq_nil_iff (fragment : Text) :
    inlineCalls fragment = [] ↔
      calls standsAlone ['@', 'm', 'a', 'p'] none
        (codeCells (Text.trimEnd (mask fragment))) = [] := by
  have hblanks : ∀ cell ∈ codeCells (Text.trailingBlanks (mask fragment)),
      Text.isBlank cell.visible := by
    intro cell hcell
    obtain ⟨hvisible, hmem⟩ := visible_of_mem_codeCells hcell
    rw [hvisible]
    exact Text.isBlank_trailingBlanks _ _ hmem
  have hdetached : Detached (codeCells (Text.trailingBlanks (mask fragment))) := by
    refine ⟨fun cell hcell => hblanks cell (List.mem_of_mem_head? hcell), ?_⟩
    rw [List.dropWhile_eq_nil_iff.mpr hblanks]
    simp
  have hvisible : (cells fragment).map Cell.visible =
      (codeCells (Text.trimEnd (mask fragment)) ++
        codeCells (Text.trailingBlanks (mask fragment))).map Cell.visible := by
    rw [← codeCells_append, Text.trimEnd_append_trailingBlanks, map_visible_codeCells]
    rfl
  have hat : ∀ cell ∈ codeCells (Text.trailingBlanks (mask fragment)), cell.visible ≠ '@' :=
    fun cell hcell => Text.ne_of_class (hblanks cell hcell) (by decide)
  rw [inlineCalls, calls_eq_nil_iff_of_visible none hvisible,
    calls_append isBlank_mapWord _ hdetached, calls_eq_nil hat]
  simp

end MapCall

theorem SameCode.inline?_isNone {rest other : Text} (h : SameCode rest other) :
    (MapCall.inline? rest).isNone = (MapCall.inline? other).isNone := by
  rw [Bool.eq_iff_iff, Option.isNone_iff_eq_none, Option.isNone_iff_eq_none, inline?_eq_none_iff,
    inline?_eq_none_iff, MapCall.inlineCalls_eq_nil_iff, MapCall.inlineCalls_eq_nil_iff, h]

theorem SameCode.tail {c : Char} {rest other : Text} (h : SameCode (c :: rest) (c :: other))
    (hplain : Plain [c]) (hc : Text.isBlank c = false) : SameCode rest other := by
  have hmask : ∀ text, mask (c :: text) = c :: mask text := hplain.mask_append
  rw [SameCode, hmask, hmask, Text.trimEnd_cons hc, Text.trimEnd_cons hc] at h
  exact (List.cons.inj h).2

/-- A run of characters that takes in no blanks ends where a text is trimmed, if not before. -/
theorem Text.takeWhile_trimEnd {p : Char → Bool} (h : ∀ c, isBlank c → p c = false)
    (text : Text) : (trimEnd text).takeWhile p = text.takeWhile p := by
  have hblanks : (trailingBlanks text).takeWhile p = [] := by
    rw [List.takeWhile_eq_nil_iff]
    intro hlength
    simp [h _ (isBlank_trailingBlanks _ _ (List.getElem_mem hlength))]
  conv_rhs => rw [← trimEnd_append_trailingBlanks text, List.takeWhile_append, hblanks]
  split
  · next hall =>
      rw [List.append_nil]
      exact (List.takeWhile_prefix p).eq_of_length hall
  · rfl

/-- The characters of the name of a block attribute. -/
def isAttributeChar (c : Char) : Bool :=
  Text.isWordChar c || c == '.'

theorem isAttributeChar_of_isBlank {c : Char} (h : Text.isBlank c) : isAttributeChar c = false := by
  have hdot : c ≠ '.' := Text.ne_of_class h (by decide)
  simp [isAttributeChar, Text.isWordChar_of_isBlank h, hdot]

theorem blockAttributeName?_takeWhile (text : Text) :
    blockAttributeName? (text.takeWhile isAttributeChar) = blockAttributeName? text := by
  cases text with
  | nil => rfl
  | cons c rest =>
      by_cases hc : isAttributeChar c
      · rw [List.takeWhile_cons_of_pos hc, blockAttributeName?, blockAttributeName?]
        have htwice : (rest.takeWhile isAttributeChar).takeWhile isAttributeChar =
            rest.takeWhile isAttributeChar := by
          rw [List.takeWhile_takeWhile]
          simp
        exact congrArg (fun run => if Text.isNameStart c then some (c :: run) else none) htwice
      · have hstart : Text.isNameStart c = false := by
          rw [Bool.eq_false_iff]
          intro hstart
          simp [isAttributeChar, Text.isWordChar_of_isNameStart hstart] at hc
        rw [List.takeWhile_cons_of_neg hc, blockAttributeName?, blockAttributeName?, hstart]
        rfl

theorem SameCode.blockAttributeName? {rest other : Text} (h : SameCode rest other) :
    blockAttributeName? rest = SchemaCase.blockAttributeName? other := by
  have hshown : ∀ text : Text, text.takeWhile isAttributeChar =
      (Text.trimEnd (mask text)).takeWhile isAttributeChar := by
    intro text
    rw [Text.takeWhile_trimEnd fun c hc => isAttributeChar_of_isBlank hc]
    exact (takeWhile_mask (by decide +kernel) (by decide +kernel) (by decide +kernel) text).symm
  rw [← blockAttributeName?_takeWhile rest, hshown, h, ← hshown, blockAttributeName?_takeWhile]

theorem Line.isMapLine_classify_iff (line : Line) :
    line.classify.isMapLine ↔ ∃ indent rest, (∀ c ∈ indent, Text.isBlank c) ∧
      line.text = indent ++ '@' :: '@' :: rest ∧ blockAttributeName? rest = some "map".toList := by
  have hname : ∀ rest, blockAttributeName? (Text.trimEnd rest) = blockAttributeName? rest := by
    intro rest
    rw [← blockAttributeName?_takeWhile,
      Text.takeWhile_trimEnd fun c hc => isAttributeChar_of_isBlank hc,
      blockAttributeName?_takeWhile]
  have hat : Text.isBlank '@' = false := by decide
  constructor
  · intro h
    simp only [classify] at h
    split at h
    · simp [isMapLine] at h
    split at h
    · simp [isMapLine] at h
    split at h
    · next hsigns =>
        simp only [isMapLine, beq_self_eq_true, Bool.true_and, beq_iff_eq] at h
        obtain ⟨shown, hshown⟩ := List.isPrefixOf_iff_prefix.mp hsigns
        have hstart : Text.trimStart line.text =
            '@' :: '@' :: (shown ++ Text.trailingBlanks (Text.trimStart line.text)) := by
          conv_lhs => rw [← Text.trimEnd_append_trailingBlanks (Text.trimStart line.text)]
          rw [← Text.trim, ← hshown]
          rfl
        refine ⟨Text.leadingBlanks line.text, _,
          Text.isBlank_leadingBlanks _,
          by rw [← hstart, Text.leadingBlanks_append_trimStart], ?_⟩
        rw [← hname, Text.trimEnd_append_blanks (Text.isBlank_trailingBlanks _),
          hname, ← h, ← hshown]
        rfl
    · split at h
      · simp [isMapLine] at h
      · simp [isMapLine] at h
  · rintro ⟨indent, rest, hindent, htext, hmap⟩
    have htrim : Text.trim line.text = '@' :: '@' :: Text.trimEnd rest := by
      rw [htext, Text.trim, Text.trimStart_run hindent (by simp [hat]), Text.trimEnd_cons hat,
        Text.trimEnd_cons hat]
    simp [classify, htrim, List.isPrefixOf, isMapLine, hname, hmap]

structure Line.Alike (line other : Line) : Prop where
  isField : line.isField = other.isField
  isMapLine : line.isMapLine = other.isMapLine
  parts : line.isField → line.fieldName = other.fieldName ∧
    line.mapLiteral.isNone = other.mapLiteral.isNone

theorem Line.field_of_sameCode {line other : Line} (hfeed : '\n' ∉ line.text)
    (hother : '\n' ∉ other.text) (h : SameCode line.text other.text)
    (hfield : line.classify.isField) :
    other.classify.isField ∧ line.classify.fieldName = other.classify.fieldName ∧
      line.classify.mapLiteral.isNone = other.classify.mapLiteral.isNone := by
  obtain ⟨parts, hparts, htext⟩ := exists_parts_of_isField hfeed hfield
  obtain ⟨first, behind, hrest, hfirst⟩ := hparts.rest
  have hfront : '\n' ∉ parts.indent ++ parts.name ++ parts.gap := by
    intro hmem
    exact hparts.oneLine (List.mem_append_left _ hmem)
  have hopens := hparts.noComment
  rw [hrest] at hopens
  rw [htext, FieldParts.text, hrest] at h
  obtain ⟨behind', hbehind, hopens', hsame⟩ := h.code hparts.plain_front hfront hfirst hopens
  have hparts' : { parts with rest := first :: behind' }.WellFormed :=
    hparts.withRest ⟨first, behind', rfl, hfirst⟩ hopens'
      fun hmem => hother (hbehind ▸ List.mem_append_right _ hmem)
  rw [classify_field hparts htext, classify_field hparts' hbehind]
  refine ⟨rfl, rfl, ?_⟩
  rw [← hrest] at hsame
  exact hsame.inline?_isNone

theorem Line.isMapLine_of_sameCode {line other : Line} (hfeed : '\n' ∉ line.text)
    (h : SameCode line.text other.text) (hmap : line.classify.isMapLine) :
    other.classify.isMapLine := by
  obtain ⟨indent, rest, hindent, htext, hname⟩ := line.isMapLine_classify_iff.mp hmap
  have hfront : Plain (indent ++ ['@']) := (plain_of_isBlank hindent).append (by decide)
  have hsplit : indent ++ '@' :: '@' :: rest = (indent ++ ['@']) ++ '@' :: rest := by simp
  rw [htext, hsplit] at h hfeed
  obtain ⟨behind, hbehind, -, hsame⟩ := h.code hfront
    (fun hmem => hfeed (List.mem_append_left _ hmem)) (by decide) (by simp)
  refine other.isMapLine_classify_iff.mpr ⟨indent, behind, hindent, by simp [hbehind], ?_⟩
  rw [← hname]
  exact (hsame.tail (by decide) (by decide)).blockAttributeName?.symm

theorem Line.alike_of_sameCode {line other : Line} (hfeed : '\n' ∉ line.text)
    (hother : '\n' ∉ other.text) (h : SameCode line.text other.text) :
    line.classify.Alike other.classify where
  isField := by
    rw [Bool.eq_iff_iff]
    exact ⟨fun hfield => (field_of_sameCode hfeed hother h hfield).1,
      fun hfield => (field_of_sameCode hother hfeed h.symm hfield).1⟩
  isMapLine := by
    rw [Bool.eq_iff_iff]
    exact ⟨isMapLine_of_sameCode hfeed h, isMapLine_of_sameCode hother h.symm⟩
  parts hfield := (field_of_sameCode hfeed hother h hfield).2

/-- Blocks that renaming does not tell apart. -/
structure Block.Alike (block other : Block) : Prop where
  header : block.toHeader = other.toHeader
  kind : block.kind = other.kind
  lineNumber : block.lineNumber = other.lineNumber
  lines : block.isDeclaration → List.Forall₂ Line.Alike block.lines other.lines

inductive Segment.Alike : Segment → Segment → Prop
  | passthrough (text other : Text) : Alike (.passthrough text) (.passthrough other)
  | block {block other : Block} (alike : block.Alike other) : Alike (.block block) (.block other)

theorem Segment.SameCode.alike {segment other : Segment} (h : segment.SameCode other) :
    (segment.mapBlock Block.classify).Alike (other.mapBlock Block.classify) := by
  cases h with
  | passthrough text other => exact .passthrough text other
  | @block block other body body' header kind lineNumber lines lines' masked =>
      have hlineNumber : ∀ block : Block, block.classify.lineNumber = block.lineNumber := by
        intro block
        unfold Block.classify
        split <;> rfl
      refine .block ⟨by simp [header], by simp [kind], by simp [hlineNumber, lineNumber], ?_⟩
      intro hdeclaration
      have hdeclared : block.isDeclaration := by
        rwa [Block.isDeclaration, Block.classify_kind] at hdeclaration
      have hdeclared' : other.isDeclaration := by rwa [Block.isDeclaration, ← kind]
      rw [Block.classify, if_pos hdeclared, Block.classify, if_pos hdeclared', lines, lines',
        List.forall₂_map_left_iff, List.forall₂_map_right_iff]
      exact (Line.sameCode_ofBody masked).imp fun _ _ h =>
        Line.alike_of_sameCode h.1 h.2.1 h.2.2

structure Line.SameField (line other : Line) : Prop where
  isField : line.isField
  isField' : other.isField
  fieldName : line.fieldName = other.fieldName
  mapLiteral : line.mapLiteral.isNone = other.mapLiteral.isNone

theorem Line.sameField_filter {lines others : List Line} (h : List.Forall₂ Alike lines others) :
    List.Forall₂ SameField (lines.filter isField) (others.filter isField) := by
  induction h with
  | nil => exact .nil
  | @cons line other lines others halike _ ih =>
      have hfield := halike.isField
      cases hline : line.isField with
      | false =>
          rw [List.filter_cons_of_neg (by simp [hline]),
            List.filter_cons_of_neg (by simp [← hfield, hline])]
          exact ih
      | true =>
          rw [hline] at hfield
          rw [List.filter_cons_of_pos hline, List.filter_cons_of_pos hfield.symm]
          obtain ⟨hname, hliteral⟩ := halike.parts hline
          exact .cons ⟨hline, hfield.symm, hname, hliteral⟩ ih

namespace Block

variable {block other : Block}

theorem Alike.fields (h : block.Alike other) (hdeclaration : block.isDeclaration) :
    List.Forall₂ Line.SameField block.fields other.fields :=
  Line.sameField_filter (h.lines hdeclaration)

theorem Alike.findAttribute?_isNone (h : block.Alike other) (hdeclaration : block.isDeclaration) :
    (block.findAttribute? "map".toList).isNone =
      (other.findAttribute? "map".toList).isNone := by
  have hmaps : block.mapLines.length = other.mapLines.length := by
    refine (List.rel_filter ?_ (h.lines hdeclaration)).length_eq
    intro line line' halike
    simp [halike.isMapLine]
  rw [findAttribute?_map, findAttribute?_map, Bool.eq_iff_iff, Option.isNone_iff_eq_none,
    Option.isNone_iff_eq_none, List.head?_eq_none_iff, List.head?_eq_none_iff,
    ← List.length_eq_zero_iff, hmaps, List.length_eq_zero_iff]

theorem Alike.propose (naming : Naming) (h : block.Alike other)
    (hdeclaration : block.isDeclaration) :
    BlockPlan.propose naming block = BlockPlan.propose naming other := by
  have hnames : other.fields.map (fun line => line.fieldName.getD []) =
      block.fields.map fun line => line.fieldName.getD [] := by
    apply map_eq_of_forall₂ (h.fields hdeclaration)
    intro line line' hsame
    rw [hsame.fieldName]
  rw [BlockPlan.propose, BlockPlan.propose, hnames, h.kind, h.header]

theorem Alike.fieldNames (h : block.Alike other) (hdeclaration : block.isDeclaration) :
    block.fieldNames = other.fieldNames := by
  have hnames : other.fields.map (·.fieldName) = block.fields.map (·.fieldName) :=
    map_eq_of_forall₂ (h.fields hdeclaration) fun line line' hsame => hsame.fieldName.symm
  have hfilter : ∀ lines : List Line,
      lines.filterMap (·.fieldName) = (lines.map (·.fieldName)).filterMap id := by
    intro lines
    rw [List.filterMap_map]
    rfl
  rw [Block.fieldNames, hfilter, ← hnames, ← hfilter]
  rfl

end Block

namespace FieldEdits

/-- Only field lines have plans. -/
theorem of_records_filter (block : Text) (taken : List Text) (lines : List Line)
    (plans : List Plan) :
    (of block taken (lines.filter Line.isField) plans).records =
      (of block taken lines plans).records := by
  induction lines generalizing taken plans with
  | nil => rfl
  | cons line lines ih =>
      cases hfield : line.isField with
      | false =>
          rw [List.filter_cons_of_neg (by simp [hfield]), ih]
          simp [of, hfield, cons]
      | true =>
          rw [List.filter_cons_of_pos hfield]
          cases plans with
          | nil => simp [of, hfield]
          | cons plan plans => simp [of, hfield, cons, ih]

theorem of_records_congr {lines others : List Line} (h : List.Forall₂ Line.SameField lines others)
    (block : Text) (taken : List Text) (plans : List Plan) :
    (of block taken lines plans).records = (of block taken others plans).records := by
  induction h generalizing taken plans with
  | nil => rfl
  | @cons line other lines others hsame _ ih =>
      cases plans with
      | nil => simp [of, hsame.isField, hsame.isField']
      | cons plan plans =>
          have hstep : (FieldStep.of block taken line plan).taken =
                (FieldStep.of block taken other plan).taken ∧
              (FieldStep.of block taken line plan).records =
                (FieldStep.of block taken other plan).records := by
            unfold FieldStep.of
            split
            · exact ⟨rfl, rfl⟩
            · split
              · exact ⟨rfl, rfl⟩
              · exact ⟨rfl, by rw [hsame.mapLiteral]⟩
          simp only [of, hsame.isField, hsame.isField', if_true, cons, hstep, ih]

end FieldEdits

theorem Block.rename_records {block : Block} (h : block.Ready) (plan : Plan) (plans : List Plan) :
    (block.rename plan plans).records =
      (if plan.changed then
          [⟨.ofBlockKind block.kind, plan.newName, plan.oldName, plan.newName,
            (block.findAttribute? "map".toList).isNone⟩]
        else []) ++
      (FieldEdits.of (if plan.changed then plan.newName else block.name) block.fieldNames
        block.fields plans).records := by
  obtain ⟨self, records, events, hself, -, hfields, hname, hrecords⟩ := renameSelf_spec h plan
  have hnames : self.fieldNames = block.fieldNames := by
    rw [fieldNames, hfields]
    rfl
  rw [rename, hself]
  simp only [renameFields]
  rw [hrecords, hname, hnames, ← FieldEdits.of_records_filter, ← fields, hfields]

theorem Block.Alike.rename_records {block other : Block} (h : block.Alike other)
    (hdeclaration : block.isDeclaration) (hready : block.Ready) (hready' : other.Ready)
    (plan : Plan) (plans : List Plan) :
    (block.rename plan plans).records = (other.rename plan plans).records := by
  rw [Block.rename_records hready, Block.rename_records hready', h.kind,
    h.findAttribute?_isNone hdeclaration, h.fieldNames hdeclaration, h.header,
    FieldEdits.of_records_congr (h.fields hdeclaration)]

theorem PlannedSegment.apply_records {block : Block} {plan : BlockPlan} {edited : EditedSegment}
    (h : apply ⟨.block block, some plan⟩ = .ok edited) :
    edited.records = (block.rename plan.name plan.fields).records := by
  simp only [apply] at h
  split at h
  · cases h
  · cases h
    rfl

theorem planSegments_alike {naming : Naming} {taken : List Text} {segments others : List Segment}
    {edited edited' : List EditedSegment} (h : List.Forall₂ Segment.Alike segments others)
    (hready : ∀ segment ∈ segments, segment.Ready) (hready' : ∀ segment ∈ others, segment.Ready)
    (hedited : List.Forall₂ (fun planned edited => planned.apply = .ok edited)
      (planSegments naming taken segments) edited)
    (hedited' : List.Forall₂ (fun planned edited => planned.apply = .ok edited)
      (planSegments naming taken others) edited') :
    edited.flatMap (·.records) = edited'.flatMap (·.records) := by
  induction h generalizing taken edited edited' with
  | nil =>
      cases hedited
      cases hedited'
      rfl
  | @cons segment other segments others halike _ ih =>
      rw [List.forall_mem_cons] at hready hready'
      cases halike with
      | passthrough text text' =>
          cases hedited with
          | cons happly hedited =>
          cases hedited' with
          | cons happly' hedited' =>
          cases happly
          cases happly'
          simpa using ih hready.2 hready'.2 hedited hedited'
      | @block block other halike =>
          have hdeclared : block.isDeclaration = other.isDeclaration := by
            rw [Block.isDeclaration, halike.kind]
            rfl
          cases hdeclaration : block.isDeclaration with
          | false =>
              rw [planSegments, hdeclaration] at hedited
              rw [planSegments, ← hdeclared, hdeclaration] at hedited'
              cases hedited with
              | cons happly hedited =>
              cases hedited' with
              | cons happly' hedited' =>
              cases happly
              cases happly'
              simpa using ih hready.2 hready'.2 hedited hedited'
          | true =>
              have hplan : (BlockPlan.propose naming block).settle taken block =
                  (BlockPlan.propose naming other).settle taken other := by
                rw [halike.propose naming hdeclaration, BlockPlan.settle, BlockPlan.settle,
                  halike.header, halike.lineNumber]
              rw [planSegments, hdeclaration] at hedited
              rw [planSegments, ← hdeclared, hdeclaration] at hedited'
              cases hedited with
              | cons happly hedited =>
              cases hedited' with
              | cons happly' hedited' =>
              rw [List.flatMap_cons, List.flatMap_cons, PlannedSegment.apply_records happly,
                PlannedSegment.apply_records happly', ← hplan,
                halike.rename_records hdeclaration (hready.1.2.2 hdeclaration)
                  (hready'.1.2.2 (hdeclared ▸ hdeclaration))]
              rw [← hplan] at hedited'
              rw [ih hready.2 hready'.2 hedited hedited']

theorem Document.takenNames_alike {segments others : List Segment}
    (h : List.Forall₂ Segment.Alike segments others) :
    takenNames ⟨segments⟩ = takenNames ⟨others⟩ := by
  induction h with
  | nil => rfl
  | cons halike _ ih =>
      cases halike with
      | passthrough text other => exact ih
      | @block block other halike =>
          rw [takenNames_eq, takenNames_eq] at ih ⊢
          cases hsettings : block.kind.isSettings with
          | true =>
              rwa [named_cons_settings hsettings, named_cons_settings (halike.kind ▸ hsettings)]
          | false =>
              rw [named_cons hsettings, named_cons (halike.kind ▸ hsettings), List.map_cons,
                List.map_cons, ih, halike.header]

/-- Two texts that differ only in comments and in the contents of strings are migrated alike: both
are refused at the same place, or the same names are given and recorded. -/
theorem migrate_congr_mask (tableCase fieldCase tableInflection : Text → Text)
    (renameReferences : Bool) {text other : Text} (h : mask text = mask other) :
    let naming := Naming.ofNames tableCase fieldCase tableInflection
    (∃ error error', migrate naming renameReferences text = .error (.parse error) ∧
        migrate naming renameReferences other = .error (.parse error') ∧
        error.kind = error'.kind ∧ error.line = error'.line ∧ error.column = error'.column) ∨
      ∃ migration migration', migrate naming renameReferences text = .ok migration ∧
        migrate naming renameReferences other = .ok migration' ∧
        migration.records = migration'.records := by
  intro naming
  rcases Document.parse_sameCode h with ⟨error, error', herror, herror', hplace⟩ |
    ⟨document, document', hparse, hparse', hsegments⟩
  · exact .inl ⟨error, error', migrate_parseError herror, migrate_parseError herror', hplace⟩
  · right
    have hread : Document.read text = .ok document.classify := by rw [Document.read, hparse]; rfl
    have hread' : Document.read other = .ok document'.classify := by
      rw [Document.read, hparse']
      rfl
    have halike : List.Forall₂ Segment.Alike document.classify.segments
        document'.classify.segments := by
      rw [Document.classify, Document.classify, Document.mapBlocks, Document.mapBlocks,
        List.forall₂_map_left_iff, List.forall₂_map_right_iff]
      exact hsegments.imp fun _ _ hsame => hsame.alike
    have hready := Document.ready_of_read hread
    have hready' := Document.ready_of_read hread'
    obtain ⟨edited, hedited, -⟩ := planSegments_changes naming document.classify.takenNames hready
    obtain ⟨edited', hedited', -⟩ :=
      planSegments_changes naming document'.classify.takenNames hready'
    refine ⟨_, _, migrate_edited renameReferences hread (by simp [naming]) hedited,
      migrate_edited renameReferences hread' (by simp [naming]) hedited', ?_⟩
    rw [mapM_eq_ok_iff] at hedited hedited'
    rw [← Document.takenNames_alike halike] at hedited'
    exact planSegments_alike halike hready hready' hedited hedited'

/-- Neither the brace in a string nor the call in a comment counts. -/
theorem migrate_congr_mask_brace :
    let text := "model a_b \x7b\n  c_d Int // the key\n  e Json @default(\"x\")\n\x7d\n".toList
    let other := "model a_b \x7b\n  c_d Int // @map(f)\n  e Json @default(\"\x7d\")\n\x7d\n".toList
    let naming := Naming.ofNames (fun _ => "G".toList) (fun _ => "h".toList) id
    mask text = mask other ∧
      ((∃ error error', migrate naming true text = .error (.parse error) ∧
          migrate naming true other = .error (.parse error') ∧
          error.kind = error'.kind ∧ error.line = error'.line ∧ error.column = error'.column) ∨
        ∃ migration migration', migrate naming true text = .ok migration ∧
          migrate naming true other = .ok migration' ∧
          migration.records = migration'.records) := by
  intro text other naming
  have hmask : mask text = mask other := by decide +kernel
  exact ⟨hmask, migrate_congr_mask (fun _ => "G".toList) (fun _ => "h".toList) id true hmask⟩

end SchemaCase
