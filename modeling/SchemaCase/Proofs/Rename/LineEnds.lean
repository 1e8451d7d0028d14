import SchemaCase.Name.Case
import SchemaCase.Name.Inflection
import SchemaCase.Proofs.Rename.Report
import SchemaCase.Proofs.Schema.LineFeeds

/-! Line ends of what a migration writes. A new line takes its end from the block that it goes into.
A block on one line has none to give, and then the new lines end in a lone line feed. -/

namespace SchemaCase

/-- Where the database name of a renamed block needs a line of its own, the block has a line end. -/
def Block.OffersLineEnd (block renamed : Block) : Prop :=
  renamed.name ≠ block.name → block.findAttribute? "map".toList = none → '\n' ∈ block.body

/-- Among lines without lone line feeds, a lone one comes only from a block on one line. -/
theorem Block.innerTerminator_ne_iff {block : Block} (hbody : Line.IsBody block.lines)
    (hpaired : ∀ line ∈ block.lines, line.terminator ≠ ['\n']) :
    block.innerTerminator ≠ ['\n'] ↔ '\n' ∈ block.body := by
  rw [body, hbody.lineFeed_mem_render, innerTerminator]
  cases hfind : (block.lines.map (·.terminator)).find? fun terminator => !terminator.isEmpty with
  | none => simpa using hfind
  | some terminator =>
      have hnonempty := List.find?_some hfind
      obtain ⟨line, hline, rfl⟩ := List.mem_map.mp (List.mem_of_find?_eq_some hfind)
      have hended : ∃ line ∈ block.lines, line.terminator ≠ [] :=
        ⟨line, hline, by simpa using hnonempty⟩
      simpa only [Option.getD_some, hended, iff_true] using hpaired line hline

theorem MapInsertion.terminators {block : Block} {changed inserted : List Line}
    (h : MapInsertion block changed inserted) :
    (∀ line ∈ inserted, line.terminator ≠ ['\n']) ↔
      block.innerTerminator ≠ ['\n'] ∧ ∀ line ∈ changed, line.terminator ≠ ['\n'] := by
  have hmap : (block.mapLine block.name).terminator = block.innerTerminator := by
    rw [Block.mapLine_eq]
  cases h with
  | below hfield hterminated =>
      simp only [List.forall_mem_cons, hmap]
      tauto
  | headerEnd =>
      simp only [List.forall_mem_cons, hmap, Block.headerEnd]
      tauto

theorem LineChange.terminator_eq {rule newType? : Text → Option Text} {block : Text}
    {before after : Line} {records : List Record}
    (h : LineChange rule newType? block before after records) :
    after.terminator = before.terminator := by
  cases h <;> rfl

theorem Changes.terminators {rule newType? : Text → Option Text} {block : Text}
    {lines changed : List Line} {records : List Record}
    (h : Changes (LineChange rule newType? block) lines changed records)
    (hpaired : ∀ line ∈ lines, line.terminator ≠ ['\n']) :
    ∀ line ∈ changed, line.terminator ≠ ['\n'] := by
  induction h with
  | nil => exact hpaired
  | cons head tail ih =>
      rw [List.forall_mem_cons] at hpaired ⊢
      exact ⟨by rw [head.terminator_eq]; exact hpaired.1, ih hpaired.2⟩

theorem BlockChange.terminators {naming : Naming} {newType? : Text → Option Text}
    {block after : Block} {records : List Record} (hready : block.Ready)
    (h : BlockChange naming newType? block after records)
    (hpaired : ∀ line ∈ block.lines, line.terminator ≠ ['\n']) :
    (∀ line ∈ after.lines, line.terminator ≠ ['\n']) ↔ block.OffersLineEnd after := by
  cases h with
  | kept lines =>
      have hoffers : block.OffersLineEnd { block with lines := _ } := fun hname => absurd rfl hname
      exact iff_of_true (lines.terminators hpaired) hoffers
  | renamed byRule identifier differs hasMap lines =>
      refine iff_of_true (lines.terminators hpaired) fun _ hnone => ?_
      rw [hnone] at hasMap
      cases hasMap
  | mapped byRule identifier differs noMap lines insertion =>
      rw [insertion.terminators, and_iff_left (lines.terminators hpaired),
        Block.innerTerminator_ne_iff hready.isBody hpaired]
      exact ⟨fun hmem _ _ => hmem, fun hoffers => hoffers differs noMap⟩

theorem Changes.pairedFrom_render {naming : Naming} {newType? : Text → Option Text}
    {segments changed : List Segment} {records : List Record}
    (hnew : ∀ token name, newType? token = some name → Text.IsName name)
    (hready : ∀ segment ∈ segments, segment.Ready)
    (h : Changes (SegmentChange naming newType?) segments changed records) {last : Option Char}
    (hpaired : Text.pairedFrom last (segments.flatMap Segment.render)) :
    Text.pairedFrom last (changed.flatMap Segment.render) ↔
      List.Forall₂ Block.OffersLineEnd (Document.declarations ⟨segments⟩)
        (Document.declarations ⟨changed⟩) := by
  induction h generalizing last with
  | nil => exact iff_of_true rfl .nil
  | cons head tail ih =>
      rw [List.forall_mem_cons] at hready
      rw [List.flatMap_cons, Text.pairedFrom_append, Bool.and_eq_true] at hpaired ⊢
      cases head with
      | passthrough =>
          rw [and_iff_right hpaired.1]
          exact ih hready.2 hpaired.2
      | other hdeclaration =>
          rw [and_iff_right hpaired.1, Document.declarations_cons_other hdeclaration,
            Document.declarations_cons_other hdeclaration]
          exact ih hready.2 hpaired.2
      | @declaration block after records hdeclaration change =>
          have hblock := hready.1.2.2 hdeclaration
          have hbody := change.takeBody (Block.typeRule_names hnew block) hblock
          have hafter : after.isDeclaration := by rwa [Block.isDeclaration, change.kind_eq]
          have hbrace : ∀ {block : Block}, block.closing = ['\x7d'] →
              (Segment.block block).render.getLast?.or last = some '\x7d' := by
            intro block hclosing
            simp [Segment.render, Block.render, hclosing]
          have hclosing := change.closing_eq.trans hready.1.1
          rw [hbrace hready.1.1, Segment.render,
            Block.pairedFrom_render hblock.header hblock.isBody hready.1.1] at hpaired
          rw [hbrace hclosing, Segment.render,
            Block.pairedFrom_render (change.header hblock.header) hbody.isBody hclosing,
            Document.declarations_cons hdeclaration, Document.declarations_cons hafter,
            List.forall₂_cons, change.terminators hblock hpaired.1, ih hready.2 hpaired.2]

theorem forall₂_offersLineEnd_congr {blocks renamed others : List Block}
    (h : List.Forall₂ (fun block other => other.name = block.name) renamed others) :
    List.Forall₂ Block.OffersLineEnd blocks renamed ↔
      List.Forall₂ Block.OffersLineEnd blocks others := by
  constructor
  · intro hoffers
    refine forall₂_compose hoffers h fun block after other hafter hname => ?_
    rwa [Block.OffersLineEnd, hname]
  · intro hoffers
    refine forall₂_compose hoffers h.flip fun block other after hother hname => ?_
    rwa [Block.OffersLineEnd, ← hname]

/-- Where every line feed of a schema stands behind a carriage return, a migration keeps it so
exactly if no block on one line is given a line for its database name. -/
theorem migrate_pairedFeeds_iff (tableCase fieldCase tableInflection : Text → Text)
    (renameReferences : Bool) {text : Text} {document : Document}
    (hread : Document.read text = .ok document) (hpaired : Text.PairedFeeds text) :
    ∃ migration after,
      migrate (.ofNames tableCase fieldCase tableInflection) renameReferences text =
          .ok migration ∧
        Document.read migration.text = .ok after ∧
        (Text.PairedFeeds migration.text ↔
          List.Forall₂ Block.OffersLineEnd document.declarations after.declarations) := by
  obtain ⟨segments, records, after, hmigrate, hchanges, -, hreread, hblocks⟩ :=
    migrate_renames renameReferences hread
      (by simp : document.blocks.findSome?
        (Naming.ofNames tableCase fieldCase tableInflection).refused? = none)
  refine ⟨_, after, hmigrate, hreread, ?_⟩
  have hnew := referenceRule_names
    (hchanges.forall_records fun _ _ _ change => change.identifier) renameReferences
  rw [← Document.render_read hread, Text.pairedFeeds_iff] at hpaired
  rw [Text.pairedFeeds_iff, Document.render,
    hchanges.pairedFrom_render hnew (Document.ready_of_read hread) hpaired]
  apply forall₂_offersLineEnd_congr
  refine (List.rel_filter ?_ hblocks).imp fun _ _ hread => hread.sameNames.name
  intro block read hread
  simp only [Block.isDeclaration, hread.kind]

/-- A model below a comment, an enum with a database name of its own and a model on one line, all of
which are renamed. -/
theorem migrate_pairedFeeds_iff_mixed :
    let first : Header := { keyword := "model".toList, name := "users".toList }
    let enum : Header := { keyword := "enum".toList, name := "role".toList }
    let second : Header := { keyword := "model".toList, name := "posts".toList }
    let pieces : List Piece := [
      .block first " // all\r\n  user_id Int\r\n".toList, .passthrough "\r\n\r\n".toList,
      .block enum " @@map(\"roles\") ".toList, .passthrough "\r\n".toList,
      .block second " id Int ".toList]
    let text := pieces.flatMap Piece.render
    let document := (Piece.document text pieces).classify
    Document.read text = .ok document ∧ Text.PairedFeeds text ∧
      ∃ migration after,
        migrate (.ofNames Case.pascal.apply Case.camel.apply Inflection.singular.apply) true text =
            .ok migration ∧
          Document.read migration.text = .ok after ∧
          (Text.PairedFeeds migration.text ↔
            List.Forall₂ Block.OffersLineEnd document.declarations after.declarations) := by
  intro first enum second pieces text document
  have hread : Document.read text = .ok document := by decide +kernel
  have hpaired : Text.PairedFeeds text := by decide +kernel
  exact ⟨hread, hpaired, migrate_pairedFeeds_iff _ _ _ true hread hpaired⟩

/-- A model on one line is given lone line feeds. -/
theorem migrate_unpairs_lineFeeds :
    let naming := Naming.ofNames Case.pascal.apply Case.camel.apply Inflection.leave.apply
    let text := "model a \x7b id Int \x7d\r\n".toList
    let newText := "model A \x7b\n  @@map(\"a\")\n id Int \x7d\r\n".toList
    migrate naming true text =
        .ok ⟨newText, [⟨.model, ['A'], ['a'], ['A'], true⟩]⟩ ∧
      Text.PairedFeeds text ∧ ¬Text.PairedFeeds newText := by
  decide +kernel

end SchemaCase
