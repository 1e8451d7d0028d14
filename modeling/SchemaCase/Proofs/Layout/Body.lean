import SchemaCase.Proofs.Layout.Columns
import SchemaCase.Proofs.Layout.EmptyLines
import SchemaCase.Proofs.Lists

/-! The lines of a body as they are set. Every line stays the item that it was and keeps its ink,
so that lines which are set once are set for good. -/

namespace SchemaCase.Layout

open Source

theorem plainLine_eq_nil {text : Text} (h : Text.trim text = []) : plainLine text = [] := by
  simp [plainLine, h]

theorem plainLine_eq_append {text : Text} (h : Text.trim text ≠ []) :
    plainLine text = indent ++ Text.trim text := by
  simp [plainLine, h]

theorem trim_plainLine (text : Text) : Text.trim (plainLine text) = Text.trim text := by
  by_cases h : Text.trim text = []
  · rw [plainLine_eq_nil h, h]
    rfl
  · rw [plainLine_eq_append h, Text.trim_blanks_append isBlank_indent, Text.trim_trim]

theorem Linewise.plainLine {β : Type} {f : Text → List β} (hf : Linewise f) (text : Text) :
    f (plainLine text) = f text := by
  rw [← hf.trim, trim_plainLine, hf.trim]

theorem plainLine_congr {text other : Text} (h : Text.trim text = Text.trim other) :
    plainLine text = plainLine other := by
  simp only [plainLine, h]

theorem lineFeed_not_mem_plainLine {text : Text} (h : '\n' ∉ text) : '\n' ∉ plainLine text := by
  by_cases htrim : Text.trim text = []
  · rw [plainLine_eq_nil htrim]
    simp
  · have hmem : '\n' ∉ Text.trim text := fun hmem => h (Text.trim_subset text hmem)
    rw [plainLine_eq_append htrim]
    simp [indent, hmem]

theorem isShown_plainLine {text : Text} (h : '\n' ∉ text) : IsShown (plainLine text) := by
  apply isShown_of_getLast? (lineFeed_not_mem_plainLine h)
  by_cases htrim : Text.trim text = []
  · rw [plainLine_eq_nil htrim]
    simp
  · rw [plainLine_eq_append htrim, List.getLast?_append_of_ne_nil _ htrim]
    exact Text.trim_getLast? text

structure Style (α : Type) where
  read? : Text → Option α
  render : List α → α → Text
  read?_nil : read? [] = none
  read?_of_trim : ∀ {text other : Text} {value : α}, '\n' ∉ text → '\n' ∉ other →
    Text.trim other = Text.trim text → read? text = some value → ∃ found, read? other = some found
  member : ∀ {text : Text} {value : α} (group : List α), '\n' ∉ text → read? text = some value →
    read? (render group value) = some value ∧ ink (render group value) = ink text ∧
      IsShown (render group value)

namespace Style

variable {α : Type} (style : Style α)

def item (text : Text) : Item α :=
  match style.read? text with
  | some value => .member value
  | none => .single (plainLine text)

theorem item_of_read? {text : Text} {value : α} (h : style.read? text = some value) :
    style.item text = .member value := by
  rw [item, h]

theorem item_of_none {text : Text} (h : style.read? text = none) :
    style.item text = .single (plainLine text) := by
  rw [item, h]

theorem read?_of_item {text : Text} {value : α} (h : style.item text = .member value) :
    style.read? text = some value := by
  cases hread : style.read? text with
  | some found =>
      rw [style.item_of_read? hread] at h
      rw [Item.member.inj h]
  | none =>
      rw [style.item_of_none hread] at h
      cases h

theorem none_of_item {text shown : Text} (h : style.item text = .single shown) :
    style.read? text = none ∧ shown = plainLine text := by
  cases hread : style.read? text with
  | some found =>
      rw [style.item_of_read? hread] at h
      cases h
  | none =>
      rw [style.item_of_none hread] at h
      exact ⟨rfl, (Item.single.inj h).symm⟩

theorem item_nil : style.item [] = .single [] :=
  style.item_of_none style.read?_nil

structure Sets (after before : Text) : Prop where
  read? : style.read? after = style.read? before
  plain : style.read? before = none → after = plainLine before
  ink : Source.ink after = Source.ink before
  shown : IsShown after

variable {style}

theorem Sets.item {after before : Text} (h : style.Sets after before) :
    style.item after = style.item before := by
  cases hread : style.read? before with
  | some value => rw [style.item_of_read? hread, style.item_of_read? (h.read?.trans hread)]
  | none =>
      rw [style.item_of_none hread, style.item_of_none (h.read?.trans hread), h.plain hread,
        plainLine_congr (trim_plainLine before)]

variable (style)

theorem sets_single {text shown : Text} (hfeed : '\n' ∉ text)
    (hitem : style.item text = .single shown) : style.Sets shown text := by
  obtain ⟨hnone, rfl⟩ := style.none_of_item hitem
  have hread : style.read? (plainLine text) = none := by
    rw [Option.eq_none_iff_forall_ne_some]
    intro value hvalue
    obtain ⟨found, hfound⟩ := style.read?_of_trim (lineFeed_not_mem_plainLine hfeed) hfeed
      (trim_plainLine text).symm hvalue
    rw [hnone] at hfound
    cases hfound
  exact ⟨hread.trans hnone.symm, fun _ => rfl, linewise_ink.plainLine text,
    isShown_plainLine hfeed⟩

theorem sets_member (group : List α) {text : Text} {value : α} (hfeed : '\n' ∉ text)
    (hitem : style.item text = .member value) : style.Sets (style.render group value) text := by
  have hvalue := style.read?_of_item hitem
  obtain ⟨hread, hink, hshown⟩ := style.member group hfeed hvalue
  refine ⟨hread.trans hvalue.symm, fun hnone => ?_, hink, hshown⟩
  rw [hvalue] at hnone
  cases hnone

def renderGroup (group : List α) : List Text :=
  group.map (style.render group)

def renderLines (texts : List Text) : List Text :=
  renderItems style.renderGroup [] (texts.map style.item)

theorem sets_group (columns : List α) {texts : List Text} {group : List α}
    (hfeed : ∀ text ∈ texts, '\n' ∉ text) (hitems : texts.map style.item = group.map .member) :
    List.Forall₂ style.Sets (group.map (style.render columns)) texts := by
  induction texts generalizing group with
  | nil =>
      obtain rfl : group = [] := List.map_eq_nil_iff.mp hitems.symm
      exact .nil
  | cons text texts ih =>
      cases group with
      | nil => cases hitems
      | cons value group =>
          obtain ⟨hitem, hrest⟩ := List.cons.inj hitems
          rw [List.forall_mem_cons] at hfeed
          exact .cons (style.sets_member columns hfeed.1 hitem) (ih hfeed.2 hrest)

theorem sets_renderItems (front : List Text) (group : List α) {texts : List Text}
    (hfeed : ∀ text ∈ front ++ texts, '\n' ∉ text)
    (hgroup : front.map style.item = group.map .member) :
    List.Forall₂ style.Sets
      (renderItems style.renderGroup group (texts.map style.item)) (front ++ texts) := by
  induction texts generalizing front group with
  | nil =>
      rw [List.append_nil] at hfeed ⊢
      exact style.sets_group group hfeed hgroup
  | cons text texts ih =>
      cases hitem : style.item text with
      | member value =>
          rw [List.map_cons, hitem, renderItems, List.append_cons front]
          apply ih (front ++ [text]) (group ++ [value])
          · rwa [← List.append_cons]
          · rw [List.map_append, List.map_append, hgroup, List.map_singleton, hitem]
            rfl
      | single shown =>
          have hfront : ∀ text ∈ front, '\n' ∉ text :=
            fun other hother => hfeed other (List.mem_append_left _ hother)
          have hrest : ∀ other ∈ text :: texts, '\n' ∉ other :=
            fun other hother => hfeed other (List.mem_append_right _ hother)
          rw [List.forall_mem_cons] at hrest
          rw [List.map_cons, hitem, renderItems]
          exact List.rel_append (style.sets_group group hfront hgroup)
            (.cons (style.sets_single hrest.1 hitem) (ih [] [] hrest.2 rfl))

theorem sets_renderLines {texts : List Text} (hfeed : ∀ text ∈ texts, '\n' ∉ text) :
    List.Forall₂ style.Sets (style.renderLines texts) texts :=
  style.sets_renderItems [] [] hfeed rfl

/-- `f` says the same of every line of some texts and of that line as it is set. -/
def Keeps {β : Type} (f : Text → List β) (texts : List Text) : Prop :=
  ∀ before ∈ texts, ∀ after, style.Sets after before → f after = f before

variable {style}

theorem Keeps.flatMap_renderLines {β : Type} {f : Text → List β} {texts : List Text}
    (h : style.Keeps f texts) (hfeed : ∀ text ∈ texts, '\n' ∉ text) :
    (style.renderLines texts).flatMap f = texts.flatMap f := by
  have hsets := style.sets_renderLines hfeed
  revert h
  generalize style.renderLines texts = shown at hsets
  induction hsets with
  | nil => exact fun _ => rfl
  | cons hset hrest ih =>
      intro h
      rw [Keeps, List.forall_mem_cons] at h
      rw [List.flatMap_cons, List.flatMap_cons, h.1 _ hset,
        ih (fun text htext => hfeed text (List.mem_cons_of_mem _ htext)) h.2]

end Style

structure AreSet (style : Style α) (texts : List Text) : Prop where
  renderLines : style.renderLines texts = texts
  single : ∀ text ∈ texts, ∀ shown, style.item text = .single shown → text = shown
  shown : ∀ text ∈ texts, IsShown text

theorem areSet_renderLines (style : Style α) {texts : List Text}
    (hfeed : ∀ text ∈ texts, '\n' ∉ text) : AreSet style (style.renderLines texts) := by
  have hsets := style.sets_renderLines hfeed
  have hitems : texts.map style.item = (style.renderLines texts).map style.item :=
    map_eq_of_forall₂ hsets fun after before h => h.item.symm
  refine ⟨?_, forall_left_of_forall₂ hsets ?_,
    forall_left_of_forall₂ hsets fun after before h => h.shown⟩
  · rw [Style.renderLines, ← hitems]
    rfl
  · intro after before h shown hshown
    rw [h.item] at hshown
    obtain ⟨hnone, rfl⟩ := style.none_of_item hshown
    exact h.plain hnone

theorem Style.renderGroup_ne_nil (style : Style α) {texts : List Text} {group : List α}
    (hfeed : ∀ text ∈ texts, '\n' ∉ text) (hgroup : texts.map style.item = group.map .member) :
    ∀ shown ∈ style.renderGroup group, shown ≠ [] := by
  intro shown hshown hnil
  obtain ⟨value, hvalue, rfl⟩ := List.mem_map.mp hshown
  have hmember : Item.member value ∈ texts.map style.item := by
    rw [hgroup]
    exact List.mem_map_of_mem hvalue
  obtain ⟨text, htext, hitem⟩ := List.mem_map.mp hmember
  have hsets := (style.sets_member group (hfeed text htext) hitem).item
  rw [hnil, style.item_nil, hitem] at hsets
  cases hsets

/-- Empty lines are no members, so collapsing them keeps the groups. -/
theorem Style.collapseFrom_renderItems (style : Style α) (afterEmpty : Bool)
    {front texts : List Text} {group : List α} (hfeed : ∀ text ∈ front ++ texts, '\n' ∉ text)
    (hgroup : front.map style.item = group.map .member)
    (hsingle : ∀ text ∈ texts, ∀ shown, style.item text = .single shown → text = shown) :
    collapseFrom afterEmpty (renderItems style.renderGroup group (texts.map style.item)) =
      renderItems style.renderGroup group
        ((collapseFrom (afterEmpty && group.isEmpty) texts).map style.item) := by
  -- The lines of a group are not empty, so an empty line in front of them counts for the lines
  -- behind them only where the group has no members yet.
  induction texts generalizing front group afterEmpty with
  | nil =>
      rw [List.append_nil] at hfeed
      have hcollapse := collapseFrom_append_of_ne_nil afterEmpty
        (style.renderGroup_ne_nil hfeed hgroup) []
      rw [List.append_nil] at hcollapse
      exact hcollapse.trans (List.append_nil _)
  | cons text texts ih =>
      rw [List.forall_mem_cons] at hsingle
      cases hitem : style.item text with
      | member value =>
          have hne : text ≠ [] := by
            rintro rfl
            rw [style.item_nil] at hitem
            cases hitem
          have hgroup' : (front ++ [text]).map style.item = (group ++ [value]).map .member := by
            rw [List.map_append, List.map_append, hgroup, List.map_singleton, hitem]
            rfl
          have hafter : (afterEmpty && (group ++ [value]).isEmpty) = false := by simp
          rw [List.append_cons front] at hfeed
          rw [collapseFrom_cons_of_ne_nil _ hne, List.map_cons, hitem, List.map_cons, hitem,
            renderItems, renderItems, ih afterEmpty hfeed hgroup' hsingle.2, hafter]
      | single shown =>
          obtain rfl := hsingle.1 shown hitem
          have hfront : ∀ text ∈ front, '\n' ∉ text :=
            fun other hother => hfeed other (List.mem_append_left _ hother)
          have hrest : ∀ other ∈ [] ++ texts, '\n' ∉ other := by
            intro other hother
            exact hfeed other (List.mem_append_right _ (List.mem_cons_of_mem _ hother))
          have hgroupEmpty : (style.renderGroup group).isEmpty = group.isEmpty := by
            cases group <;> rfl
          rw [List.map_cons, hitem, renderItems,
            collapseFrom_append_of_ne_nil _ (style.renderGroup_ne_nil hfront hgroup), hgroupEmpty,
            collapseFrom, collapseFrom]
          split
          · next hempty =>
              have hgroupNil : group = [] := by
                simp only [Bool.and_eq_true, List.isEmpty_iff] at hempty
                exact hempty.2.2
              rw [hgroupNil, ih true hrest rfl hsingle.2]
              rfl
          · rw [List.map_cons, hitem, renderItems, ih text.isEmpty hrest rfl hsingle.2]
            simp

theorem Style.renderItems_append_singles (style : Style α) (group : List α)
    (items : List (Item α)) (shown : List Text) :
    renderItems style.renderGroup group (items ++ shown.map .single) =
      renderItems style.renderGroup group items ++ shown := by
  induction items generalizing group with
  | nil =>
      rw [List.nil_append]
      induction shown generalizing group with
      | nil => exact (List.append_nil _).symm
      | cons text shown ih =>
          change style.renderGroup group ++ text ::
            renderItems style.renderGroup [] (shown.map .single) = _
          rw [ih]
          rfl
  | cons item items ih =>
      cases item with
      | member value =>
          rw [List.cons_append, renderItems, ih]
          rfl
      | single text =>
          rw [List.cons_append, renderItems, ih, renderItems, List.append_assoc, List.cons_append]

theorem Style.renderLines_append_empty (style : Style α) (texts : List Text) {ends : List Text}
    (h : ∀ text ∈ ends, text = []) :
    style.renderLines (texts ++ ends) = style.renderLines texts ++ ends := by
  have hends : ends.map style.item = ends.map .single := by
    apply List.map_congr_left
    intro text htext
    rw [h text htext, style.item_nil]
  rw [Style.renderLines, List.map_append, hends, style.renderItems_append_singles]
  rfl

theorem AreSet.collapseEmpty {style : Style α} {texts : List Text} (h : AreSet style texts) :
    AreSet style (collapseEmpty texts) := by
  have hsubset := collapseEmpty_subset texts
  refine ⟨?_, fun text htext => h.single text (hsubset htext),
    fun text htext => h.shown text (hsubset htext)⟩
  have hfeed : ∀ text ∈ texts, '\n' ∉ text := fun text htext => (h.shown text htext).oneLine
  have hall : ∀ text ∈ [] ++ texts, '\n' ∉ text := hfeed
  have hgroup : ([] : List Text).map style.item = ([] : List α).map .member := rfl
  have hcollapse := style.collapseFrom_renderItems true hall hgroup h.single
  rw [← Style.renderLines, h.renderLines] at hcollapse
  obtain ⟨ends, hends, hempty⟩ := exists_rdropWhile (collapseFrom true texts)
  have hset : style.renderLines (collapseFrom true texts) = collapseFrom true texts :=
    hcollapse.symm
  rw [hends, ← collapseEmpty_eq, style.renderLines_append_empty _ hempty] at hset
  exact List.append_cancel_right hset

/-- The lines of a body between the empty texts in front of its first line feed and behind its
last. -/
theorem AreSet.renderLines_body {style : Style α} {texts : List Text} (h : AreSet style texts) :
    style.renderLines ([] :: texts ++ [[]]) = [] :: texts ++ [[]] := by
  rw [style.renderLines_append_empty _ (by simp), Style.renderLines, List.map_cons, style.item_nil,
    renderItems, ← Style.renderLines, h.renderLines]
  rfl

theorem Style.collapseEmpty_renderLines_body (style : Style α) {texts : List Text}
    (hfeed : ∀ text ∈ texts, '\n' ∉ text) :
    Layout.collapseEmpty (style.renderLines
      ([] :: Layout.collapseEmpty (style.renderLines texts) ++ [[]])) =
        Layout.collapseEmpty (style.renderLines texts) := by
  rw [(areSet_renderLines style hfeed).collapseEmpty.renderLines_body,
    collapseEmpty_append_empty _ (by simp), collapseEmpty_nil_cons, collapseEmpty_collapseEmpty]

def fieldRow? (line : Line) : Option FieldRow :=
  if line.classify.isField then some (.ofLine line.classify) else none

theorem fieldRow?_text (line : Line) : fieldRow? line = fieldRow? { text := line.text } := by
  by_cases hblank : (Text.trim line.text).isEmpty
  · simp only [fieldRow?, Line.classify, hblank, if_true]
    rfl
  by_cases hcomment : "//".toList.isPrefixOf (Text.trim line.text)
  · simp only [fieldRow?, Line.classify, hblank, hcomment, if_true]
    rfl
  by_cases hattribute : "@@".toList.isPrefixOf (Text.trim line.text)
  · simp only [fieldRow?, Line.classify, hblank, hcomment, hattribute, if_true]
    rfl
  simp only [fieldRow?, Line.classify, hblank, hcomment, hattribute]
  cases FieldParts.read? line.text with
  | none => rfl
  | some parts => rfl

theorem exists_parts_of_fieldRow? {line : Line} {row : FieldRow} (hfeed : '\n' ∉ line.text)
    (h : fieldRow? line = some row) :
    ∃ parts : FieldParts, parts.WellFormed ∧ line.text = parts.text ∧
      FieldRow.ofLine line.classify = row := by
  rw [fieldRow?, Option.ite_none_right_eq_some, Option.some.injEq] at h
  obtain ⟨parts, hparts, htext⟩ := Line.exists_parts_of_isField hfeed h.1
  exact ⟨parts, hparts, htext, h.2⟩

theorem fieldRow?_of_parts {line : Line} {parts : FieldParts} (hparts : parts.WellFormed)
    (htext : line.text = parts.text) :
    fieldRow? line = some (.ofLine line.classify) := by
  have hfield : line.classify.isField := by
    rw [Line.classify_field hparts htext]
    rfl
  rw [fieldRow?, if_pos hfield]

theorem FieldRow.WellFormed.fieldRow?_render {row : FieldRow} (h : row.WellFormed)
    (nameWidth typeWidth : Nat) :
    fieldRow? { text := render nameWidth typeWidth row } = some row := by
  have htext : Line.text { text := render nameWidth typeWidth row } =
      (row.parts nameWidth typeWidth).text :=
    h.render_eq nameWidth typeWidth
  obtain ⟨hfield, hrow⟩ := h.ofLine_parts nameWidth typeWidth htext
  rw [fieldRow?, if_pos hfield, hrow]

theorem FieldRow.WellFormed.isShown_render {row : FieldRow} (h : row.WellFormed)
    (nameWidth typeWidth : Nat) : IsShown (render nameWidth typeWidth row) := by
  rw [h.render_eq]
  exact isShown_of_getLast? (h.parts_wellFormed nameWidth typeWidth).oneLine
    (h.getLast?_parts nameWidth typeWidth)

def fieldStyle : Style FieldRow where
  read? text := fieldRow? { text }
  render group :=
    FieldRow.render (Text.widest (group.map (·.name))) (Text.widest (group.map (·.type)))
  read?_nil := rfl
  read?_of_trim := by
    intro text other row hfeed hother htrim hrow
    obtain ⟨parts, hparts, htext, -⟩ := exists_parts_of_fieldRow? hfeed hrow
    obtain ⟨others, hothers, hother⟩ :=
      FieldParts.exists_of_trim hparts hother (htrim.trans (congrArg Text.trim htext))
    exact ⟨_, fieldRow?_of_parts hothers hother⟩
  member := by
    intro text row group hfeed hrow
    obtain ⟨parts, hparts, htext, rfl⟩ := exists_parts_of_fieldRow? hfeed hrow
    obtain ⟨hwellFormed, hink⟩ := FieldRow.ofLine_wellFormed hparts htext
    refine ⟨hwellFormed.fieldRow?_render _ _, ?_, hwellFormed.isShown_render _ _⟩
    rw [hwellFormed.render_eq, hwellFormed.ink_parts, hink]

def settingStyle : Style Setting where
  read? text := Setting.ofLine? { text }
  render group := Setting.render (Text.widest (group.map (·.key)))
  read?_nil := rfl
  read?_of_trim := by
    intro text other setting _ _ htrim hsetting
    exact ⟨setting, Setting.ofLine?_of_trim hsetting htrim⟩
  member := by
    intro text setting group hfeed hsetting
    obtain ⟨hwellFormed, hink⟩ := Setting.ofLine?_wellFormed hfeed hsetting
    refine ⟨hwellFormed.ofLine?_render rfl, ?_, hwellFormed.oneLine_render _,
      hwellFormed.getLast?_render _⟩
    rw [(hwellFormed.spells _).ink, hink]

theorem fieldItem_eq (line : Line) : fieldItem line = fieldStyle.item line.text := by
  have hread : fieldStyle.read? line.text = fieldRow? line := (fieldRow?_text line).symm
  by_cases hfield : line.classify.isField
  · rw [fieldRow?, if_pos hfield] at hread
    rw [fieldStyle.item_of_read? hread]
    simp only [fieldItem, hfield, if_true]
  · rw [fieldRow?, if_neg hfield] at hread
    rw [fieldStyle.item_of_none hread]
    simp [fieldItem, hfield]

theorem settingItem_eq (line : Line) : settingItem line = settingStyle.item line.text := by
  have hread : settingStyle.read? line.text = Setting.ofLine? line := rfl
  cases hline : Setting.ofLine? line with
  | some setting => rw [settingItem, hline, settingStyle.item_of_read? (hread.trans hline)]
  | none => rw [settingItem, hline, settingStyle.item_of_none (hread.trans hline)]

/-- The texts of a body of some kind as they are set. -/
def settledLines (kind : BlockKind) (texts : List Text) : List Text :=
  if kind.isSettings then collapseEmpty (settingStyle.renderLines texts)
  else collapseEmpty (fieldStyle.renderLines texts)

theorem blockLines_eq (block : Block) :
    blockLines block = (block.keyword ++ ' ' :: block.name ++ [' ', '\x7b']) ::
      settledLines block.kind (block.lines.map (·.text)) ++ [['\x7d']] := by
  have hfields : block.lines.map fieldItem =
      (block.lines.map (·.text)).map fieldStyle.item := by
    rw [List.map_map]
    exact List.map_congr_left fun line _ => fieldItem_eq line
  have hsettings : block.lines.map settingItem =
      (block.lines.map (·.text)).map settingStyle.item := by
    rw [List.map_map]
    exact List.map_congr_left fun line _ => settingItem_eq line
  have hbody : collapseEmpty (bodyLines block) =
      settledLines block.kind (block.lines.map (·.text)) := by
    unfold bodyLines settledLines
    split
    · rw [hsettings]
      rfl
    · rw [hfields]
      rfl
  rw [blockLines, hbody]

variable (kind : BlockKind) {texts : List Text} (hfeed : ∀ text ∈ texts, '\n' ∉ text)

include hfeed

theorem isShown_settledLines : ∀ text ∈ settledLines kind texts, IsShown text := by
  unfold settledLines
  split
  · exact (areSet_renderLines settingStyle hfeed).collapseEmpty.shown
  · exact (areSet_renderLines fieldStyle hfeed).collapseEmpty.shown

/-- What was set is set again from the body that it makes up. -/
theorem settledLines_body :
    settledLines kind ([] :: settledLines kind texts ++ [[]]) = settledLines kind texts := by
  unfold settledLines
  split
  · exact settingStyle.collapseEmpty_renderLines_body hfeed
  · exact fieldStyle.collapseEmpty_renderLines_body hfeed

theorem flatMap_settledLines {β : Type} {f : Text → List β} (hnil : f [] = [])
    (hsettings : kind.isSettings → settingStyle.Keeps f texts)
    (hfields : ¬kind.isSettings → fieldStyle.Keeps f texts) :
    (settledLines kind texts).flatMap f = texts.flatMap f := by
  unfold settledLines
  split
  · next hkind =>
      rw [flatMap_congr_filter hnil (filter_collapseEmpty _)]
      exact (hsettings hkind).flatMap_renderLines hfeed
  · next hkind =>
      rw [flatMap_congr_filter hnil (filter_collapseEmpty _)]
      exact (hfields hkind).flatMap_renderLines hfeed

theorem ink_settledLines : (settledLines kind texts).flatMap ink = texts.flatMap ink :=
  flatMap_settledLines kind hfeed rfl (fun _ _ _ _ h => h.ink) fun _ _ _ _ h => h.ink

end SchemaCase.Layout
