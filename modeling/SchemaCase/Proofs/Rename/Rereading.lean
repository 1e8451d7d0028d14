import SchemaCase.Proofs.Rename.Edits
import SchemaCase.Proofs.Schema.Pieces

/-! Reading what a migration wrote. The text that a migration gives is read again, segment by
segment, with the lines that the migration left in memory. -/

namespace SchemaCase

open Source

structure Line.TakeBody (changed lines : List Line) : Prop where
  isBody : IsBody changed
  braces : codeBraces (cells (changed.flatMap render)) = codeBraces (cells (lines.flatMap render))
  mode : modeAfter .code (lines.flatMap render) = .code →
    modeAfter .code (changed.flatMap render) = .code

theorem Line.TakeBody.trans {first second third : List Line} (h : TakeBody second first)
    (hnext : TakeBody third second) : TakeBody third first :=
  ⟨hnext.isBody, hnext.braces.trans h.braces, fun hmode => hnext.mode (h.mode hmode)⟩

theorem Line.modeAfter_takes {changed lines : List Line} (h : List.Forall₂ Takes changed lines)
    (hchanged : IsBody changed) (hlines : IsBody lines)
    (hmode : Source.modeAfter .code (lines.flatMap render) = .code) :
    Source.modeAfter .code (changed.flatMap render) = .code := by
  induction h with
  | nil => exact hlines.elim
  | @cons after before changed lines htakes hrest ih =>
      cases hrest with
      | nil =>
          have hafter : [after].flatMap render = after.text := by simp [render, hchanged.2]
          have hbefore : [before].flatMap render = before.text := by simp [render, hlines.2]
          rw [hbefore] at hmode
          rw [hafter, htakes.unobtrusive.mode (.inl hmode), hmode]
      | cons hnext hrest =>
          rw [List.flatMap_cons, hchanged.1.modeAfter]
          apply ih hchanged.2 hlines.2
          rwa [List.flatMap_cons, hlines.1.modeAfter] at hmode

theorem Line.braces_takes {changed lines : List Line} (h : List.Forall₂ Takes changed lines) :
    changed.flatMap braces = lines.flatMap braces := by
  induction h with
  | nil => rfl
  | cons htakes hrest ih =>
      rw [List.flatMap_cons, List.flatMap_cons, ih]
      congr 1
      exact htakes.unobtrusive.braces

theorem Line.takeBody_of_takes {changed lines : List Line} (h : List.Forall₂ Takes changed lines)
    (hlines : IsBody lines) : TakeBody changed lines := by
  have hchanged : IsBody changed := hlines.replace (h.imp fun _ _ htakes => htakes.replaces)
  refine ⟨hchanged, ?_, modeAfter_takes h hchanged hlines⟩
  rw [codeBraces_body hchanged, codeBraces_body hlines, braces_takes h]

theorem Line.takeBody_insert {first inserted : Line} {rest : List Line}
    (hinserted : inserted.IsTerminated) (hbraces : inserted.braces = []) (hrest : rest ≠ [])
    (h : IsBody (first :: rest)) : TakeBody (first :: inserted :: rest) (first :: rest) := by
  obtain ⟨hfirst, htail⟩ := (isBody_cons hrest).mp h
  have hbody : IsBody (first :: inserted :: rest) :=
    ⟨hfirst, (isBody_cons hrest).mpr ⟨hinserted, htail⟩⟩
  refine ⟨hbody, ?_, fun hmode => ?_⟩
  · rw [codeBraces_body hbody, codeBraces_body h]
    simp [hbraces]
  · rw [List.flatMap_cons, hfirst.modeAfter] at hmode ⊢
    rw [List.flatMap_cons, hinserted.modeAfter]
    exact hmode

theorem Line.takeBody_cons {inserted : Line} {lines : List Line}
    (hinserted : inserted.IsTerminated) (hbraces : inserted.braces = []) (h : IsBody lines) :
    TakeBody (inserted :: lines) lines := by
  have hbody : IsBody (inserted :: lines) := (isBody_cons h.ne_nil).mpr ⟨hinserted, h⟩
  refine ⟨hbody, ?_, fun hmode => ?_⟩
  · rw [codeBraces_body hbody, codeBraces_body h]
    simp [hbraces]
  · rw [List.flatMap_cons, hinserted.modeAfter]
    exact hmode

theorem Block.innerIndent_oneLine {block : Block} (h : ∀ line ∈ block.lines, '\n' ∉ line.text) :
    '\n' ∉ block.innerIndent := by
  unfold innerIndent
  split
  · next line hfind =>
      dsimp only
      split
      · decide
      · intro hmem
        have hline := List.mem_of_mem_tail (List.mem_of_find?_eq_some hfind)
        exact h line hline (List.takeWhile_subset _ hmem)
  · decide

theorem Block.mapLine_isTerminated {block : Block} (h : Line.IsBody block.lines) {name : Text}
    (hname : Text.IsName name) : (block.mapLine name).IsTerminated := by
  have htext := block.mapLine_text name
  have hterminator : (block.mapLine name).terminator = block.innerTerminator := by
    rw [mapLine_eq]
  constructor
  · have hfeed := hname.not_mem (Text.isWordChar_of_isBlank (by decide : Text.isBlank '\n'))
    rw [htext, mapCall_eq]
    simp [innerIndent_oneLine h.oneLine, hfeed]
  · rw [hterminator, htext]
    refine (innerTerminator_cases h).imp_left fun hend => ⟨hend, ?_⟩
    have hlast : (block.innerIndent ++ '@' :: mapCall name).getLast? = some ')' := by
      rw [List.getLast?_append, mapCall_eq]
      simp [List.getLast?_cons]
    rw [hlast]
    decide

theorem Block.mapLine_braces (block : Block) {name : Text} (hname : Text.IsName name) :
    (block.mapLine name).braces = [] := by
  rw [Line.braces, mapLine_text]
  apply codeBraces_cellsFrom_eq_nil
  intro c hc
  rcases List.mem_append.mp hc with hc | hc
  · exact braces_of_isBlank block.isBlank_of_mem_innerIndent c hc
  · rcases List.mem_cons.mp hc with rfl | hc
    · decide
    · have hmem : c ∈ ' ' :: (mapCall name ++ []) := by simp [hc]
      exact (ne_of_mem_mapCall hname (by simp) c hmem).2

theorem Block.headerEnd_isTerminated {block : Block} (h : Line.IsBody block.lines) :
    block.headerEnd.IsTerminated :=
  ⟨by simp [headerEnd], (innerTerminator_cases h).imp_left fun hend => ⟨hend, by simp [headerEnd]⟩⟩

theorem MapInsertion.takeBody {block : Block} {changed inserted : List Line}
    (h : MapInsertion block changed inserted) (hname : Text.IsName block.name)
    (hblock : Line.IsBody block.lines) (hchanged : Line.IsBody changed) :
    Line.TakeBody inserted changed := by
  have hmap := Block.mapLine_isTerminated hblock hname
  have hbraces := block.mapLine_braces hname
  cases h with
  | @below first rest hfield hterminated =>
      refine Line.takeBody_insert hmap hbraces ?_ hchanged
      rintro rfl
      exact hterminated hchanged.2
  | headerEnd =>
      have hcons := Line.takeBody_cons hmap hbraces hchanged
      exact hcons.trans (Line.takeBody_cons (Block.headerEnd_isTerminated hblock) rfl hcons.isBody)

namespace Piece

def ofSegment : Segment → Piece
  | .passthrough text => .passthrough text
  | .block content => .block content.toHeader content.body

theorem ofSegment_classify (text : Text) (start : Nat) (piece : Piece) :
    ofSegment ((piece.segment text start).mapBlock Block.classify) = piece := by
  cases piece with
  | passthrough content => rfl
  | block header body =>
      rw [segment, Segment.mapBlock, ofSegment, Block.classify_toHeader, Block.classify_body,
        Block.body, Line.flatMap_render_ofBody]

theorem ofSegment_render {segment : Segment} (h : segment.Ready) :
    (ofSegment segment).render = segment.render := by
  cases segment with
  | passthrough content => rfl
  | block content =>
      rw [Segment.render, Block.render, h.1]
      rfl

end Piece

theorem Document.declarations_cons {block : Block} (h : block.isDeclaration)
    (rest : List Segment) :
    Document.declarations ⟨.block block :: rest⟩ = block :: Document.declarations ⟨rest⟩ :=
  List.filter_cons_of_pos h

theorem Document.declarations_cons_other {block : Block} (h : block.isDeclaration = false)
    (rest : List Segment) :
    Document.declarations ⟨.block block :: rest⟩ = Document.declarations ⟨rest⟩ :=
  List.filter_cons_of_neg (by rw [h]; decide)

def Block.ReadAs (block read : Block) : Prop :=
  ∃ lineNumber, read = { block with lineNumber }

theorem Block.Ready.classify_lines {block : Block} (h : block.Ready) :
    (Line.ofBody block.body).map Line.classify = block.lines := by
  rw [Block.body, Line.ofBody_flatMap_render h.isBody, List.map_map]
  exact (List.map_congr_left h.settled).trans (List.map_id _)

theorem Segment.Ready.readAs {block : Block} (h : (Segment.block block).Ready)
    (hdeclaration : block.isDeclaration) (text : Text) (start : Nat) :
    ∃ read, ((Piece.ofSegment (.block block)).segment text start).mapBlock Block.classify =
        .block read ∧ block.ReadAs read := by
  obtain ⟨hclosing, hkind, hready⟩ := h
  refine ⟨_, rfl, (positionAt text (start + block.indent.length)).line, ?_⟩
  rw [Block.classify, if_pos (by rwa [Block.isDeclaration, ← hkind])]
  dsimp only
  rw [(hready hdeclaration).classify_lines, ← hkind, ← hclosing]

theorem Document.declarations_readAs {segments : List Segment}
    (h : ∀ segment ∈ segments, segment.Ready) (text : Text) (start : Nat) :
    List.Forall₂ Block.ReadAs (Document.declarations ⟨segments⟩)
      (Document.declarations ⟨(Piece.segments text start (segments.map Piece.ofSegment)).map
        (Segment.mapBlock Block.classify)⟩) := by
  induction segments generalizing start with
  | nil => exact .nil
  | cons segment rest ih =>
      rw [List.forall_mem_cons] at h
      rw [List.map_cons, Piece.segments, List.map_cons]
      have hrest := ih h.2 (start + (Piece.ofSegment segment).render.length)
      cases segment with
      | passthrough content => exact hrest
      | block block =>
          cases hdeclaration : block.isDeclaration with
          | true =>
              obtain ⟨read, hread, hreadAs⟩ := h.1.readAs hdeclaration text start
              have hkind : read.isDeclaration := by
                obtain ⟨lineNumber, rfl⟩ := hreadAs
                exact hdeclaration
              rw [hread, Document.declarations_cons hdeclaration, Document.declarations_cons hkind]
              exact .cons hreadAs hrest
          | false =>
              rw [Document.declarations_cons_other hdeclaration]
              dsimp only [Piece.ofSegment, Piece.segment, Segment.mapBlock]
              rw [Document.declarations_cons_other]
              · exact hrest
              · rwa [Block.isDeclaration, Block.classify_kind, ← h.1.2.1]

section Names

variable {naming : Naming} {newType? : Text → Option Text}
  (hnew : ∀ token name, newType? token = some name → Text.IsName name)

include hnew

theorem BlockChange.takeBody {block after : Block} {records : List Record} (hready : block.Ready)
    (h : BlockChange naming newType? block after records) :
    Line.TakeBody after.lines block.lines := by
  cases h with
  | kept lines => exact Line.takeBody_of_takes (lines.takes hnew) hready.isBody
  | renamed hrule hidentifier hdiffers hmap lines =>
      exact Line.takeBody_of_takes (lines.takes hnew) hready.isBody
  | mapped hrule hidentifier hdiffers hmap lines insertion =>
      have hchanged := Line.takeBody_of_takes (lines.takes hnew) hready.isBody
      exact hchanged.trans
        (insertion.takeBody hready.header.name hready.isBody hchanged.isBody)

omit hnew in
theorem BlockChange.header {block after : Block} {records : List Record}
    (h : BlockChange naming newType? block after records) (hblock : block.toHeader.WellFormed) :
    after.toHeader.WellFormed := by
  cases h with
  | kept lines => exact hblock
  | renamed hrule hidentifier hdiffers hmap lines =>
      exact { hblock with name := Text.isName_of_isIdentifier hidentifier }
  | mapped hrule hidentifier hdiffers hmap lines insertion =>
      exact { hblock with name := Text.isName_of_isIdentifier hidentifier }

omit hnew in
theorem BlockChange.closing_eq {block after : Block} {records : List Record}
    (h : BlockChange naming newType? block after records) : after.closing = block.closing := by
  cases h <;> rfl

end Names

theorem Block.typeRule_names {newType? : Text → Option Text}
    (hnew : ∀ token name, newType? token = some name → Text.IsName name) (block : Block) :
    ∀ token name, block.typeRule newType? token = some name → Text.IsName name := by
  unfold Block.typeRule
  split
  · exact hnew
  · exact nofun

theorem SegmentChange.takes {naming : Naming} {newType? : Text → Option Text}
    {before after : Segment} {records : List Record}
    (hnew : ∀ token name, newType? token = some name → Text.IsName name) (hready : before.Ready)
    (h : SegmentChange naming newType? before after records) :
    (Piece.ofSegment after).Takes (Piece.ofSegment before) ∧
      (Piece.ofSegment after).render = after.render := by
  cases h with
  | passthrough => exact ⟨.passthrough, rfl⟩
  | other hdeclaration =>
      exact ⟨.block id rfl id, Piece.ofSegment_render hready⟩
  | @declaration block after records hdeclaration change =>
      have hbody := change.takeBody (Block.typeRule_names hnew block) (hready.2.2 hdeclaration)
      refine ⟨.block change.header hbody.braces hbody.mode, ?_⟩
      rw [Segment.render, Block.render, change.closing_eq, hready.1]
      rfl

theorem LineChange.identifier {rule newType? : Text → Option Text} {block : Text}
    {before after : Line} {records : List Record}
    (h : LineChange rule newType? block before after records) :
    ∀ record ∈ records, isIdentifier record.newName := by
  cases h with
  | other _ => simp
  | kept _ => simp
  | renamed _ _ hidentifier _ => simpa using hidentifier

theorem BlockChange.identifier {naming : Naming} {newType? : Text → Option Text}
    {block after : Block} {records : List Record}
    (h : BlockChange naming newType? block after records) :
    ∀ record ∈ records, isIdentifier record.newName := by
  cases h with
  | kept lines => exact lines.forall_records fun _ _ _ change => change.identifier
  | renamed _ hidentifier _ _ lines =>
      rw [List.forall_mem_cons]
      exact ⟨hidentifier, lines.forall_records fun _ _ _ change => change.identifier⟩
  | mapped _ hidentifier _ _ lines _ =>
      rw [List.forall_mem_cons]
      exact ⟨hidentifier, lines.forall_records fun _ _ _ change => change.identifier⟩

theorem SegmentChange.identifier {naming : Naming} {newType? : Text → Option Text}
    {before after : Segment} {records : List Record}
    (h : SegmentChange naming newType? before after records) :
    ∀ record ∈ records, isIdentifier record.newName := by
  cases h with
  | passthrough => simp
  | other _ => simp
  | declaration _ change => exact change.identifier

theorem referenceRule_names {records : List Record}
    (h : ∀ record ∈ records, isIdentifier record.newName) (renameReferences : Bool) :
    ∀ token name, referenceRule records renameReferences token = some name → Text.IsName name := by
  intro token name hname
  cases renameReferences with
  | false => cases hname
  | true =>
      obtain ⟨record, hfind, rfl⟩ := Option.map_eq_some_iff.mp hname
      have hrecord := List.mem_reverse.mp (List.mem_of_find?_eq_some hfind)
      exact Text.isName_of_isIdentifier (h record hrecord)

theorem Changes.pieces {naming : Naming} {newType? : Text → Option Text}
    {segments changed : List Segment} {records : List Record}
    (hnew : ∀ token name, newType? token = some name → Text.IsName name)
    (hready : ∀ segment ∈ segments, segment.Ready)
    (h : Changes (SegmentChange naming newType?) segments changed records) :
    List.Forall₂ Piece.Takes (changed.map Piece.ofSegment) (segments.map Piece.ofSegment) ∧
      (changed.map Piece.ofSegment).flatMap Piece.render = changed.flatMap Segment.render := by
  induction h with
  | nil => exact ⟨.nil, rfl⟩
  | cons head tail ih =>
      obtain ⟨htakes, hrender⟩ := head.takes hnew (hready _ List.mem_cons_self)
      obtain ⟨htail, hflat⟩ :=
        ih fun segment hsegment => hready segment (List.mem_cons_of_mem _ hsegment)
      refine ⟨.cons htakes htail, ?_⟩
      rw [List.map_cons, List.flatMap_cons, List.flatMap_cons, hrender, hflat]

theorem Piece.map_ofSegment_classify (text : Text) (pieces : List Piece) :
    (Piece.document text pieces).classify.segments.map Piece.ofSegment = pieces := by
  have hmap : ∀ start, ((Piece.segments text start pieces).map
      (Segment.mapBlock Block.classify)).map Piece.ofSegment = pieces := by
    induction pieces with
    | nil => exact fun _ => rfl
    | cons piece rest ih =>
        intro start
        rw [Piece.segments, List.map_cons, List.map_cons, ih, Piece.ofSegment_classify]
  exact hmap 0

theorem Changes.read_render {naming : Naming} {newType? : Text → Option Text} {text : Text}
    {document : Document} {segments : List Segment} {records : List Record}
    (hnew : ∀ token name, newType? token = some name → Text.IsName name)
    (hread : Document.read text = .ok document)
    (h : Changes (SegmentChange naming newType?) document.segments segments records) :
    Document.read (Document.render ⟨segments⟩) =
      .ok (Piece.document (Document.render ⟨segments⟩)
        (segments.map Piece.ofSegment)).classify := by
  obtain ⟨htakes, hflat⟩ := h.pieces hnew (Document.ready_of_read hread)
  obtain ⟨pieces, hpieces, -, rfl⟩ := Document.read_sound hread
  rw [Piece.map_ofSegment_classify] at htakes
  have harranged := hpieces.takes htakes id id
  have hparse := harranged.decomposition.parse_eq
  rw [hflat] at hparse
  rw [Document.read, Document.render, hparse]
  rfl

/-- The text that a migration gives is read again, and its pieces are the segments that the
migration left. -/
theorem migrate_reads {naming : Naming} {text : Text} {document : Document}
    (renameReferences : Bool) (hread : Document.read text = .ok document)
    (hnaming : document.blocks.findSome? naming.refused? = none) :
    ∃ segments records,
      migrate naming renameReferences text = .ok ⟨Document.render ⟨segments⟩, records⟩ ∧
        Changes (SegmentChange naming (referenceRule records renameReferences))
          document.segments segments records ∧
        Document.read (Document.render ⟨segments⟩) =
          .ok (Piece.document (Document.render ⟨segments⟩)
            (segments.map Piece.ofSegment)).classify := by
  obtain ⟨segments, records, hmigrate, hchanges⟩ :=
    migrate_changes renameReferences hread hnaming
  have hidentifiers := hchanges.forall_records fun _ _ _ change => change.identifier
  exact ⟨segments, records, hmigrate, hchanges,
    hchanges.read_render (referenceRule_names hidentifiers renameReferences) hread⟩

/-! Blocks as they are read again, whether or not a string is left open in them. -/

/-- `read` is `line` up to the database name that is found in it. -/
def Line.SameParts (line read : Line) : Prop :=
  ∃ literal, read = { line with mapLiteral := literal }

structure Block.Rereads (block read : Block) : Prop where
  header : read.toHeader = block.toHeader
  kind : read.kind = block.kind
  lines : block.isDeclaration → List.Forall₂ Line.SameParts block.lines read.lines

section Names

variable {naming : Naming} {newType? : Text → Option Text}
  (hnew : ∀ token name, newType? token = some name → Text.IsName name)

include hnew

theorem LineChange.sameParts {rule : Text → Option Text} {block : Text} {before after : Line}
    {records : List Record} (h : LineChange rule newType? block before after records)
    (hsettled : before.bare.classify = before) : after.SameParts after.bare.classify := by
  cases h with
  | other hfield => exact ⟨before.mapLiteral, hsettled⟩
  | kept hparts => exact ⟨_, Line.classify_bare_field (hparts.retype hnew) rfl⟩
  | renamed hparts hrule hidentifier hdiffers =>
      exact ⟨_, Line.classify_bare_field (hparts.renamed hnew hidentifier _) rfl⟩

theorem Changes.sameParts {rule : Text → Option Text} {block : Text} {lines changed : List Line}
    {records : List Record} (h : Changes (LineChange rule newType? block) lines changed records)
    (hsettled : ∀ line ∈ lines, line.bare.classify = line) :
    ∀ line ∈ changed, line.SameParts line.bare.classify := by
  have hsame : List.Forall₂ (fun _ after : Line => after.SameParts after.bare.classify)
      lines changed :=
    h.forall₂ fun line hline _ _ change => change.sameParts hnew (hsettled line hline)
  exact forall_right_of_forall₂ hsame fun _ _ => id

omit hnew in
theorem MapInsertion.sameParts {block : Block} {changed inserted : List Line}
    (h : MapInsertion block changed inserted)
    (hchanged : ∀ line ∈ changed, line.SameParts line.bare.classify) :
    ∀ line ∈ inserted, line.SameParts line.bare.classify := by
  have hmap : (block.mapLine block.name).SameParts (block.mapLine block.name).bare.classify :=
    ⟨_, by rw [Block.mapLine, Line.bare_classify]; rfl⟩
  cases h with
  | below hfield hterminated =>
      obtain ⟨hfirst, hrest⟩ := List.forall_mem_cons.mp hchanged
      rw [List.forall_mem_cons, List.forall_mem_cons]
      exact ⟨hfirst, hmap, hrest⟩
  | headerEnd =>
      rw [List.forall_mem_cons, List.forall_mem_cons]
      exact ⟨⟨none, rfl⟩, hmap, hchanged⟩

theorem BlockChange.sameParts {block after : Block} {records : List Record}
    (h : BlockChange naming newType? block after records) (hready : block.Ready) :
    ∀ line ∈ after.lines, line.SameParts line.bare.classify := by
  cases h with
  | kept lines => exact lines.sameParts hnew hready.settled
  | renamed hrule hidentifier hdiffers hmap lines => exact lines.sameParts hnew hready.settled
  | mapped hrule hidentifier hdiffers hmap lines insertion =>
      exact insertion.sameParts (lines.sameParts hnew hready.settled)

theorem BlockChange.rereads {block after : Block} {records : List Record}
    (h : BlockChange naming newType? block after records) (hready : block.Ready)
    (hkind : block.kind = .ofKeyword block.keyword) (text : Text) (start : Nat) :
    ∃ read, ((Piece.ofSegment (.block after)).segment text start).mapBlock Block.classify =
        .block read ∧ after.Rereads read := by
  have hkeyword : BlockKind.ofKeyword after.keyword = after.kind := by
    rw [h.kind_eq, hkind]
    cases h <;> rfl
  have hlines : (Line.ofBody after.body).map Line.classify =
      after.lines.map fun line => line.bare.classify := by
    rw [Block.body, Line.ofBody_flatMap_render (h.takeBody hnew hready).isBody, List.map_map]
    rfl
  refine ⟨_, rfl, Block.classify_toHeader _, ?_, fun hdeclaration => ?_⟩
  · rw [Block.classify_kind]
    exact hkeyword
  · rw [Block.classify, if_pos (by rwa [Block.isDeclaration, hkeyword])]
    dsimp only
    rw [hlines, List.forall₂_map_right_iff]
    exact List.forall₂_same.mpr (h.sameParts hnew hready)

end Names

theorem Changes.rereads {naming : Naming} {newType? : Text → Option Text}
    {segments changed : List Segment} {records : List Record}
    (hnew : ∀ token name, newType? token = some name → Text.IsName name)
    (hready : ∀ segment ∈ segments, segment.Ready)
    (h : Changes (SegmentChange naming newType?) segments changed records) (text : Text)
    (start : Nat) :
    List.Forall₂ Block.Rereads (Document.blocks ⟨changed⟩)
      (Document.blocks ⟨(Piece.segments text start (changed.map Piece.ofSegment)).map
        (Segment.mapBlock Block.classify)⟩) := by
  induction h generalizing start with
  | nil => exact .nil
  | @cons before after rest changed records more head tail ih =>
      rw [List.forall_mem_cons] at hready
      rw [List.map_cons, Piece.segments, List.map_cons]
      have hrest := ih hready.2 (start + (Piece.ofSegment after).render.length)
      cases head with
      | passthrough => exact hrest
      | @other block hdeclaration =>
          refine .cons ⟨Block.classify_toHeader _, ?_, fun h => ?_⟩ hrest
          · rw [Block.classify_kind]
            exact hready.1.2.1.symm
          · rw [hdeclaration] at h
            cases h
      | @declaration block after records hdeclaration change =>
          obtain ⟨read, hread, hrereads⟩ := change.rereads (Block.typeRule_names hnew block)
            (hready.1.2.2 hdeclaration) hready.1.2.1 text start
          rw [hread]
          exact .cons hrereads hrest

end SchemaCase
