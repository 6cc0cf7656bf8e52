import InputChain.Proofs.BytesLeft
import InputChain.Proofs.Pieces
import InputChain.Proofs.Requests

/-!
# Pieces of the seamless view

Seen as one buffered reader, a cursor is cut into pieces as the bytes of all sources put together are: where a block
ends, or a source, no piece does. Read line by line, a cursor is cut source by source. The two divide the same bytes,
and alike just if no source ends in the middle of a line that the next one would go on with.

* `Cursor.Passes.bytesLeft`, `Cursor.showsFront_fill`: a fill shows the front of what is left, and takes nothing.
* `Cursor.bytesLeft_consume`: what is consumed is gone from the front.
* **`Seamless.givesPiece_readUntil`**: one piece.
* `Seamless.call`, `Seamless.trace_call`, `Seamless.split_of_bytesLeft`: all pieces.
* **`line_views_part_at_open_ends`**: both views of the lines.
-/

namespace InputChain

/-! ## What a fill shows -/

/-- Bytes in front of a course of bytes alone are the front of its bytes. -/
theorem exists_content_of_append {front content : Bytes} {course : Stream' Happening}
    (h : front.map Happening.byte ++ₛ course = content.map .byte ++ₛ Stream'.const .nothing) :
    ∃ rest : Bytes, content = front ++ rest ∧ course = rest.map .byte ++ₛ Stream'.const .nothing := by
  induction front generalizing content with
  | nil => exact ⟨content, rfl, h⟩
  | cons b front ih =>
    cases content with
    | nil => cases congrArg Stream'.head h
    | cons b' content =>
      cases congrArg Stream'.head h
      obtain ⟨rest, rfl, hrest⟩ := ih (congrArg Stream'.tail h)
      exact ⟨rest, rfl, hrest⟩

/-- A course of bytes alone that begins with no byte has none. -/
theorem content_of_happenings {content : Bytes} {fault : Option IoError} {course : Stream' Happening}
    (h : content.map Happening.byte ++ₛ Stream'.const .nothing = happenings [] fault ++ₛ course) :
    content = [] ∧ fault = none ∧ course = Stream'.const .nothing := by
  cases content with
  | nil =>
    cases fault with
    | none => exact ⟨rfl, rfl, (congrArg Stream'.tail h).symm⟩
    | some error => cases congrArg Stream'.head h
  | cons b content => cases fault <;> cases congrArg Stream'.head h

namespace Inlet

variable {inlet : Inlet Script} {content : Bytes}
  (hcourse : inlet.course = content.map .byte ++ₛ Stream'.const .nothing)

include hcourse

/-- A request that is answered with nothing has found the end. -/
theorem pull_of_content {later : Inlet Script} (hheld : inlet.held = [])
    (hreply : inlet.pull blockSize = ⟨[], none, later⟩) :
    content = [] ∧ inlet.SameSource later ∧ later.course = Stream'.const .nothing := by
  have hpull := course_pull (by decide : blockSize ≠ 0) hheld
  have hsame := sameSource_pull blockSize inlet
  rw [hreply] at hpull hsame
  obtain ⟨hcontent, -, hlater⟩ := content_of_happenings (hcourse.symm.trans hpull)
  exact ⟨hcontent, hsame, hlater⟩

/-- A fill leaves what an inlet holds as it is, and shows nothing only if there is nothing. -/
theorem fill_of_content :
    inlet.fill.fault = none ∧ inlet.SameSource inlet.fill.next
      ∧ inlet.fill.next.course = content.map .byte ++ₛ Stream'.const .nothing
      ∧ (inlet.fill.got = [] → content = []) := by
  by_cases hgot : inlet.fill.got = []
  · obtain ⟨rfl, hfault, hnext⟩ :=
      content_of_happenings (hcourse.symm.trans (course_fill_of_nil hgot))
    exact ⟨hfault, sameSource_fill inlet, hnext, fun _ => rfl⟩
  · have hfault : inlet.fill.fault = none := by
      by_contra hsome
      obtain ⟨error, herror⟩ := Option.ne_none_iff_exists'.1 hsome
      exact hgot (got_fill_of_fault herror)
    have hheld : inlet.fill.next.held = inlet.fill.got := held_fillBy
    have hnext : inlet.fill.next.course = inlet.course := by
      rw [course_fill_of_got hgot, ← hheld]
      rfl
    exact ⟨hfault, sameSource_fill inlet, hnext.trans hcourse, fun hnil => absurd hnil hgot⟩

omit hcourse in
theorem endsBy_fill : EndsBy (pull blockSize) fill := by
  intro inlet hgot hfault
  obtain ⟨hheld, hfill⟩ := fillBy_of_nil (fun inlet => held_pull blockSize inlet) hgot
  exact ⟨hheld, hfill ▸ eq_of_end hgot hfault⟩

end Inlet

/-- A delivery shows the front of these bytes without a failure, and takes none of them. -/
structure Delivery.ShowsFront (delivery : Delivery Script) (left : Bytes) : Prop where
  fault : delivery.fault = none
  next : delivery.next.BytesLeft left
  nil : delivery.got = [] → left = []

namespace Cursor

variable {cursor : Cursor Script} {left : Bytes}

/-- A source that is passed had nothing to give. -/
theorem Passes.bytesLeft {there : Cursor Script} {asked : List Inquiry}
    (hpasses : Passes (Inlet.pull blockSize) cursor asked there) (h : cursor.BytesLeft left) :
    there.BytesLeft left := by
  induction hpasses with
  | refl => exact h
  | @ends cursor there id reader later asked hphase hreply hrest ih =>
    obtain ⟨hreadsOut, given, hholds, rfl⟩ := h
    obtain ⟨content, hcourse, rfl⟩ := hholds.of_active hphase
    obtain ⟨rfl, hsame, hlater⟩ := Inlet.pull_of_content hcourse rfl hreply
    exact ih ⟨hreadsOut, _, holds_close hsame hlater, rfl⟩
  | @opens cursor there source rest reader asked hphase hnext hopen hrest ih =>
    obtain ⟨hreadsOut, given, hholds, rfl⟩ := h
    have hremaining : cursor.remaining = source :: rest.remaining := SourceList.remaining_next? hnext
    obtain ⟨opened, hopened, hreads⟩ := hreadsOut source (hremaining ▸ List.mem_cons_self)
    cases hopen.symm.trans hopened
    rw [hholds.of_idle hphase, hremaining, contents, hopen] at ih ⊢
    refine ih ⟨fun later hlater => ?_, _, .active rfl (hreads.course _), rfl⟩
    exact hreadsOut later (hremaining ▸ List.mem_cons_of_mem source hlater)

theorem showsFront_fill (hpending : cursor.pending = none) (h : cursor.BytesLeft left) :
    (Seamless.fill cursor).ShowsFront left := by
  rw [Seamless.fill, readUnit_of_none hpending]
  obtain ⟨asked, there, hpasses, hlands⟩ := crossing_lands Inlet.endsBy_fill cursor
  obtain ⟨hreadsOut, given, hholds, rfl⟩ := hpasses.bytesLeft h
  generalize cursor.crossing Inlet.fill = delivery at hlands
  cases hlands with
  | exhausted hphase =>
    rw [hholds.of_exhausted hphase]
    exact ⟨rfl, ⟨hreadsOut, [], .exhausted hphase, rfl⟩, fun _ => rfl⟩
  | no_source hphase hnext =>
    rw [hholds.of_idle hphase, remaining, SourceList.remaining_next?_none hnext]
    exact ⟨rfl, ⟨hreadsOut, [], .exhausted rfl, rfl⟩, fun _ => rfl⟩
  | @refused source rest error hphase hnext hopen =>
    have hremaining : there.remaining = source :: rest.remaining := SourceList.remaining_next? hnext
    obtain ⟨reader, hopened, -⟩ := hreadsOut source (hremaining ▸ List.mem_cons_self)
    cases hopen.symm.trans hopened
  | @reads id held reader hphase hgave =>
    obtain ⟨content, hcourse, rfl⟩ := hholds.of_active hphase
    obtain ⟨hfault, hsame, hnext, hnil⟩ := Inlet.fill_of_content hcourse
    refine ⟨by rw [hfault]; rfl, ⟨hreadsOut, _, holds_withInlet hsame hnext, rfl⟩, fun hgot => ?_⟩
    rw [hfault] at hgave
    exact absurd hgot (hgave.resolve_right Bool.false_ne_true)

/-! ## What is consumed -/

/-- The block that is held is the front of what is left, and **what is consumed of it is gone from there**. -/
theorem bytesLeft_consume (h : cursor.BytesLeft left) :
    ∃ behind, left = cursor.block ++ behind ∧ ∀ front back, cursor.block = front ++ back →
      (Seamless.consume front.length cursor).BytesLeft (back ++ behind) := by
  cases hphase : cursor.phase with
  | active id held reader =>
    obtain ⟨hreadsOut, given, hholds, rfl⟩ := h
    obtain ⟨content, hcourse, rfl⟩ := hholds.of_active hphase
    obtain ⟨rest, rfl, hrest⟩ := exists_content_of_append hcourse
    rw [block_of_active hphase, List.flatMap_cons, List.append_assoc]
    refine ⟨_, rfl, ?_⟩
    rintro front back rfl
    have hconsume : Seamless.consume front.length cursor
        = { cursor with phase := .active id back reader } := by
      rw [Seamless.consume, hphase]
      simp only [List.drop_left]
    have hback : Inlet.course ⟨back, reader, cursor.world.input⟩
        = (back ++ rest).map .byte ++ₛ Stream'.const .nothing := by
      rw [List.map_append, Stream'.append_append_stream, ← hrest]
      rfl
    rw [hconsume, ← List.append_assoc]
    exact ⟨hreadsOut, _, .active rfl hback, List.flatMap_cons⟩
  | _ =>
    have hblock : cursor.block = [] := by rw [block, hphase]
    rw [hblock]
    refine ⟨left, rfl, fun front back hnil => ?_⟩
    obtain ⟨rfl, rfl⟩ := List.append_eq_nil_iff.1 hnil.symm
    have hconsume : Seamless.consume 0 cursor = cursor := by rw [Seamless.consume, hphase]
    exact hconsume.symm ▸ h

theorem bytesLeft_ofSources {world : World} {sources : List (Source Script)}
    (hreads : ∀ source ∈ sources, source.ReadsOut world.files) :
    (ofSources world sources).BytesLeft ((contents world.files world.input.left
      (SourceList.ofList sources).remaining).map Prod.snd).flatten :=
  ⟨(linesLeft_ofSources hreads).readsOut, _, .idle rfl, rfl⟩

theorem bytesLeft_memory (id : String) (content : Bytes) :
    (ofSources {} [⟨id, .memory id content⟩]).BytesLeft content := by
  have hreads : ∀ source ∈ [(⟨id, .memory id content⟩ : Source Script)], source.ReadsOut ({} : World).files := by
    refine List.forall_mem_singleton.2 ⟨_, rfl, ⟨rfl, ?_⟩, .of_plain content⟩
    simp [Behaviour.serving]
  have hleft := bytesLeft_ofSources hreads
  simpa [SourceList.remaining_ofList, contents, Provider.opened, Reader.content, Script.content, Behaviour.serving,
    Answer.content] using hleft

end Cursor

/-! ## Pieces -/

/-- A delivery gives the first piece of these bytes, and leaves the others. -/
structure Delivery.GivesPiece (delivery : Delivery Script) (stop : UInt8) (left : Bytes) : Prop where
  got : delivery.got = (cutThrough stop left).1
  fault : delivery.fault = none
  pending : delivery.next.pending = none
  next : delivery.next.BytesLeft (cutThrough stop left).2

namespace Seamless

open Cursor

variable {cursor : Cursor Script} {left : Bytes}

/-- What a fill shows is the front of what is left, and what is then consumed of it is gone from there. -/
theorem bytesLeft_consume_fill (hpending : cursor.pending = none) (h : cursor.BytesLeft left) :
    ∃ behind, left = (fill cursor).got ++ behind ∧ ∀ front back, (fill cursor).got = front ++ back →
      (consume front.length (fill cursor).next).BytesLeft (back ++ behind)
        ∧ (consume front.length (fill cursor).next).pending = none := by
  have hshows := showsFront_fill hpending h
  obtain ⟨behind, hleft, hconsume⟩ := bytesLeft_consume hshows.next
  rw [block_fill hshows.fault] at hleft hconsume
  exact ⟨behind, hleft, fun front back hgot =>
    ⟨hconsume front back hgot, (pending_consume _ _).trans (pending_readUnit cursor)⟩⟩

/-- **One piece is cut off the front of what is left**, however many blocks and sources it is spread over. -/
theorem givesPiece_readUntil (stop : UInt8) (hpending : cursor.pending = none) (h : cursor.BytesLeft left) :
    (readUntil stop cursor).GivesPiece stop left := by
  fun_induction readUntil stop cursor generalizing left with
  | case1 cursor delivery error hfault =>
    cases (showsFront_fill hpending h).fault.symm.trans hfault
  | case2 cursor delivery error hfault =>
    cases (showsFront_fill hpending h).fault.symm.trans hfault
  | case3 cursor delivery hfault =>
    rename_i hgot
    obtain ⟨-, hnext, hnil⟩ := showsFront_fill hpending h
    obtain rfl : left = [] := hnil hgot
    exact ⟨hgot, hfault, pending_readUnit cursor, hnext⟩
  | case4 cursor delivery hfault hgot piece rest =>
    rename_i hsplit
    obtain ⟨behind, rfl, hconsume⟩ := bytesLeft_consume_fill hpending h
    obtain ⟨hnext, hnone⟩ := hconsume piece rest (Inlet.append_of_splitThrough hsplit).symm
    have hcut := cutThrough_of_some behind hsplit
    exact ⟨congrArg Prod.fst hcut.symm, rfl, hnone, hcut.symm ▸ hnext⟩
  | case5 cursor delivery hfault hgot =>
    rename_i hsplit _ ih
    obtain ⟨behind, rfl, hconsume⟩ := bytesLeft_consume_fill hpending h
    obtain ⟨hnext, hnone⟩ := hconsume _ [] (List.append_nil _).symm
    obtain ⟨hpiece, hfault, hpending', hrest⟩ := ih hnone hnext
    have hcut := cutThrough_of_none behind hsplit
    refine ⟨?_, hfault, hpending', ?_⟩
    · rw [hcut]
      exact congrArg (delivery.got ++ ·) hpiece
    · rw [hcut]
      exact hrest

/-- One call for the bytes through the next `stop`: the bytes, and the failure behind them. -/
def call (stop : UInt8) (cursor : Cursor Script) : (Bytes × Option SourceError) × Cursor Script :=
  (((readUntil stop cursor).got, (readUntil stop cursor).fault), (readUntil stop cursor).next)

/-- The pieces that are left come one after another, and then the end is reported. -/
theorem trace_call (stop : UInt8) (hpending : cursor.pending = none) (h : cursor.BytesLeft left) :
    (Run.trace call (List.replicate ((piecesBehind stop left).length + 1) stop) cursor).map Prod.fst
      = (piecesBehind stop left).map (·, none) ++ [([], none)] := by
  generalize hpieces : piecesBehind stop left = pieces
  induction pieces generalizing cursor left with
  | nil =>
    obtain rfl := piecesBehind_eq_nil_iff.1 hpieces
    obtain ⟨hgot, hfault, -, -⟩ := givesPiece_readUntil stop hpending h
    simp only [List.length_nil, List.replicate, Run.trace, call, List.map_cons, hgot, hfault]
    rfl
  | cons piece later ih =>
    obtain ⟨hgot, hfault, hnone, hnext⟩ := givesPiece_readUntil stop hpending h
    have hleft : left ≠ [] := by
      rintro rfl
      cases hpieces
    rw [piecesBehind_cut hleft] at hpieces
    obtain ⟨rfl, hlater⟩ := List.cons.inj hpieces
    rw [List.length_cons, List.replicate_succ, Run.trace, List.map_cons]
    simp only [call, hgot, hfault, List.map_cons, List.cons_append]
    exact congrArg (_ :: ·) (ih hnone hnext hlater)

/-- So do they as items of the iterator over them, without the bytes that end them. -/
theorem split_of_bytesLeft (stop : UInt8) (count : Nat) (hpending : cursor.pending = none)
    (h : cursor.BytesLeft left) :
    (split stop count cursor).1
      = ((piecesBehind stop left).take count).map fun piece => .ok (dropStop stop piece) := by
  induction count generalizing cursor left with
  | zero => rfl
  | succ count ih =>
    obtain ⟨hgot, hfault, hnone, hnext⟩ := givesPiece_readUntil stop hpending h
    simp only [split, hfault, hgot]
    by_cases hleft : left = []
    · subst hleft
      rfl
    · rw [if_neg (by simpa using cutThrough_ne_nil hleft), piecesBehind_cut hleft, ih hnone hnext]
      rfl

end Seamless

theorem streamLines_map_snd (given : List (String × Bytes)) :
    (streamLines given).map Prod.snd = (given.map Prod.snd).flatMap linesOf := by
  induction given with
  | nil => rfl
  | cons first later ih =>
    rw [streamLines_cons, List.map_append, ih, List.map_map, List.map_cons, List.flatMap_cons]
    exact congrArg (· ++ _) (List.map_id _)

/-- **The two views of the lines part where a source ends in the middle of one.** Over sources that open and are
read without failures, each reader in blocks of any size and ended for good when it first gives nothing: the bytes
through the next line end, asked for again and again, are the lines of all bytes put together, and the pieces split
off behind any other byte are those of one source in memory that holds all of them. The lines as the cursor reads
them are those of each source. Both are the same bytes; they are the same lines just if every source that has bytes,
but for the last of these, ends in a line end. -/
theorem line_views_part_at_open_ends (world : World) (sources : List (Source Script))
    (hreads : ∀ source ∈ sources, source.ReadsOut world.files) :
    let parts := (contents world.files world.input.left (SourceList.ofList sources).remaining).map Prod.snd
    let stream := parts.flatten
    let lines := parts.flatMap linesOf
    let cursor := Cursor.ofSources world sources
    (Run.trace Seamless.call (List.replicate ((linesOf stream).length + 1) newline) cursor).map Prod.fst
        = (linesOf stream).map (·, none) ++ [([], none)]
      ∧ (∀ stop count, (Seamless.split stop count cursor).1
          = ((piecesBehind stop stream).take count).map fun piece => .ok (Seamless.dropStop stop piece))
      ∧ (∀ stop count id, (Seamless.split stop count cursor).1
          = (Seamless.split stop count (Cursor.ofSources {} [⟨id, .memory id stream⟩])).1)
      ∧ (Run.trace Cursor.serve
            (List.replicate (lines.length + 1) (BlockingOperation.common .readLineBytes)) cursor).map Prod.fst
        = lines.map (fun line => .ok (.bytes (some line))) ++ [.ok (.bytes none)]
      ∧ (linesOf stream).flatten = stream ∧ lines.flatten = stream
      ∧ (linesOf stream = lines
        ↔ ∀ part ∈ (parts.filter (· ≠ [])).dropLast, part.getLast? = some newline) := by
  intro parts stream lines cursor
  have hleft : cursor.BytesLeft stream := Cursor.bytesLeft_ofSources hreads
  have hsplit := fun stop count => Seamless.split_of_bytesLeft stop count rfl hleft
  refine ⟨?_, hsplit, fun stop count id => ?_, ?_, (areLines_linesOf stream).flatten,
    flatten_flatMap_linesOf parts, linesOf_flatten_eq_iff parts⟩
  · rw [linesOf_eq_piecesBehind]
    exact Seamless.trace_call newline rfl hleft
  · have hmemory := Cursor.bytesLeft_memory id stream
    rw [hsplit, Seamless.split_of_bytesLeft stop count rfl hmemory]
  · have hlines := (Cursor.answers_readLineBytes (Cursor.linesLeft_ofSources hreads)).1
    have hsnd : lines = (streamLines (contents world.files world.input.left
        (SourceList.ofList sources).remaining)).map Prod.snd := (streamLines_map_snd _).symm
    rw [hsnd, List.length_map, List.map_map]
    exact hlines

/-- A line that is spread over two sources with an empty one between them; then one that ends in a line end, and
standard input. -/
theorem line_views_part_at_open_ends_unterminated :
    let sources : List (Source Script) :=
      [⟨"a", .scripted "a" (.ok ⟨[.bytes [120], .bytes [10, 121]], none⟩)⟩, ⟨"b", .memory "b" []⟩,
        ⟨"c", .memory "c" [122, 10]⟩, .standardInput]
    let world : World := { input := .ofBytes [119] }
    let parts := (contents world.files world.input.left (SourceList.ofList sources).remaining).map Prod.snd
    let cursor := Cursor.ofSources world sources
    (∀ source ∈ sources, source.ReadsOut world.files)
      ∧ parts = [[120, 10, 121], [], [122, 10], [119]]
      ∧ (Run.trace Seamless.call (List.replicate 4 newline) cursor).map Prod.fst
        = [([120, 10], none), ([121, 122, 10], none), ([119], none), ([], none)]
      ∧ (Seamless.split 122 5 cursor).1 = [.ok [120, 10, 121], .ok [10, 119]]
      ∧ parts.flatMap linesOf = [[120, 10], [121], [122, 10], [119]]
      ∧ linesOf parts.flatten ≠ parts.flatMap linesOf := by
  intro sources world parts cursor
  have hreads : ∀ source ∈ sources, source.ReadsOut world.files := by
    refine List.forall_mem_cons.2 ⟨⟨_, rfl, ⟨rfl, by simp⟩, .of_no_end (by simp) (by simp)⟩, ?_⟩
    refine List.forall_mem_cons.2 ⟨⟨_, rfl, ⟨rfl, by simp [Behaviour.serving]⟩, .of_plain []⟩, ?_⟩
    refine List.forall_mem_cons.2 ⟨⟨_, rfl, ⟨rfl, by simp [Behaviour.serving]⟩, .of_plain _⟩, ?_⟩
    exact List.forall_mem_singleton.2 ⟨.standardInput, rfl, trivial⟩
  obtain ⟨htrace, hsplit, -, -, -, -, hiff⟩ := line_views_part_at_open_ends world sources hreads
  refine ⟨hreads, by decide, htrace, hsplit 122 5, by decide, fun hsame => ?_⟩
  exact absurd (hiff.1 hsame) (by decide)

end InputChain
