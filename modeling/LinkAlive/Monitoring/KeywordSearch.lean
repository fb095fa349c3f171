import LinkAlive.Foundation.Search
import LinkAlive.Foundation.Utf8
import LinkAlive.Monitoring.Checker

/-!
# The inspection does not depend on the chunks

However a body is cut, `inspectKeyword` finds a keyword exactly if the decoded text of the
body's first bytes contains it.
-/

namespace LinkAlive.Monitoring

open Triples

set_option autoImplicit false

namespace TextDecoder

variable (decoder : TextDecoder)

def decodeAll (bytes : List UInt8) : List Nat := (decoder.decode decoder.fresh bytes false).1

def streamFrom : decoder.State → List (List UInt8) → List Nat × decoder.State
  | state, [] => ([], state)
  | state, chunk :: rest =>
      let (text, next) := decoder.decode state chunk true
      let (texts, last) := streamFrom next rest
      (text ++ texts, last)

/-- What is documented of `TextDecoder`: chunks decoded with the flag and a last one without
it give what one call gives, and that last call resets the decoder. -/
structure Streams : Prop where
  flushed_once : ∀ (chunks : List (List UInt8)) (last : List UInt8),
    (decoder.streamFrom decoder.fresh chunks).1 ++
        (decoder.decode (decoder.streamFrom decoder.fresh chunks).2 last false).1 =
      decoder.decodeAll (chunks.flatten ++ last)
  resets : ∀ (state : decoder.State) (bytes : List UInt8),
    (decoder.decode state bytes false).2 = decoder.fresh
  nothing : decoder.decodeAll [] = []

theorem stream_from_append (state : decoder.State) (first second : List (List UInt8)) :
    decoder.streamFrom state (first ++ second) =
      ((decoder.streamFrom state first).1 ++
          (decoder.streamFrom (decoder.streamFrom state first).2 second).1,
        (decoder.streamFrom (decoder.streamFrom state first).2 second).2) := by
  induction first generalizing state with
  | nil => simp [streamFrom]
  | cons chunk first induction => simp [streamFrom, induction]

end TextDecoder

def utf8Decoder : TextDecoder := ⟨Utf8.State, Utf8.fresh, Utf8.decode⟩

theorem utf8_stream_from (state : Utf8.State) (chunks : List (List UInt8)) (last : List UInt8) :
    (utf8Decoder.streamFrom state chunks).1 ++
        (Utf8.decode (utf8Decoder.streamFrom state chunks).2 last false).1 =
      (Utf8.decode state (chunks.flatten ++ last) false).1 := by
  induction chunks generalizing state with
  | nil => rfl
  | cons chunk chunks induction =>
      have first := (Utf8.decode_append state chunk (chunks.flatten ++ last) false).1
      simp only [List.flatten_cons, List.append_assoc]
      rw [← first, ← induction]
      simp [TextDecoder.streamFrom, utf8Decoder, List.append_assoc]

theorem utf8_decoder_streams : utf8Decoder.Streams where
  flushed_once := utf8_stream_from Utf8.fresh
  resets := Utf8.decode_resets
  nothing := rfl

section Search

variable {decoder : TextDecoder} {keyword : List Nat}

theorem last_units_suffix (count : Nat) (text : List Nat) : lastUnits count text <:+ text := by
  unfold lastUnits
  split
  · exact List.suffix_rfl
  · exact List.drop_suffix _ _

theorem last_units_wide (count : Nat) (text : List Nat) :
    min count text.length ≤ (lastUnits count text).length := by
  unfold lastUnits
  split
  · exact Nat.min_le_right _ _
  · simp only [List.length_drop]
    omega

theorem includes_iff (text : List Nat) : includes text keyword = true ↔ keyword <:+: text := by
  simp [includes]

/-- The loop after the chunks `prior`, none of which held the keyword. -/
structure Inspecting (keyword : List Nat) (prior : List (List UInt8))
    (loop : InspectionState decoder) : Prop where
  state : loop.state = (decoder.streamFrom decoder.fresh prior).2
  inspected : loop.inspected = prior.flatten.length
  window : Window (keyword.length - 1) (decoder.streamFrom decoder.fresh prior).1 loop.overlap
  absent : ¬keyword <:+: (decoder.streamFrom decoder.fresh prior).1

structure Inspection.Exact (decoder : TextDecoder) (keyword : List Nat) (bytes : List UInt8)
    (inspection : Inspection) : Prop where
  found_iff : inspection.found = true ↔ keyword <:+: decoder.decodeAll (bytes.take maxBodyBytes)
  bounded : inspection.inspected ≤ maxBodyBytes
  inspected : inspection.found = false → inspection.inspected = min bytes.length maxBodyBytes

theorem inspecting_initially (nonempty : keyword ≠ []) :
    Inspecting keyword [] (⟨0, [], decoder.fresh⟩ : InspectionState decoder) where
  state := rfl
  inspected := rfl
  window := Window.nil
  absent := by simpa [TextDecoder.streamFrom] using nonempty

variable {prior : List (List UInt8)} {loop : InspectionState decoder}

/-- Decoding one more chunk finds the keyword if the text up to the chunk's end holds it. -/
theorem Inspecting.includes_next (inspecting : Inspecting keyword prior loop) (text : List Nat) :
    includes (loop.overlap ++ text) keyword = true ↔
      keyword <:+: (decoder.streamFrom decoder.fresh prior).1 ++ text :=
  (includes_iff _).trans (inspecting.window.infix_iff inspecting.absent)

theorem Inspecting.next (inspecting : Inspecting keyword prior loop) (chunk : List UInt8)
    (missing : ¬includes (loop.overlap ++ (decoder.decode loop.state chunk true).1) keyword = true) :
    Inspecting keyword (prior ++ [chunk])
      (⟨loop.inspected + chunk.length,
        lastUnits (keyword.length - 1) (loop.overlap ++ (decoder.decode loop.state chunk true).1),
        (decoder.decode loop.state chunk true).2⟩ : InspectionState decoder) := by
  have text : (decoder.streamFrom decoder.fresh (prior ++ [chunk])).1 =
      (decoder.streamFrom decoder.fresh prior).1 ++ (decoder.decode loop.state chunk true).1 := by
    simp [TextDecoder.stream_from_append, TextDecoder.streamFrom, inspecting.state]
  refine ⟨?_, ?_, ?_, ?_⟩
  · simp [TextDecoder.stream_from_append, TextDecoder.streamFrom, inspecting.state]
  · simp [inspecting.inspected]
  · rw [text]
    exact (inspecting.window.append _).shorten (last_units_suffix _ _) (last_units_wide _ _)
  · rw [text]
    exact fun found => missing ((inspecting.includes_next _).mpr found)

theorem take_of_room {bytes : List UInt8} {room : Nat}
    (unfilled : (bytes.take room).length < room) : bytes.take room = bytes := by
  simp only [List.length_take] at unfilled
  exact List.take_of_length_le (by omega)

theorem Inspecting.take_limit (inspecting : Inspecting keyword prior loop)
    (room : loop.inspected < maxBodyBytes) (chunk rest : List UInt8)
    (full : maxBodyBytes - loop.inspected ≤ chunk.length) :
    (prior.flatten ++ (chunk ++ rest)).take maxBodyBytes =
      prior.flatten ++ chunk.take (maxBodyBytes - loop.inspected) := by
  have length := inspecting.inspected
  rw [List.take_append, List.take_of_length_le (by omega), ← length,
    List.take_append_of_le_length full]

variable (streams : decoder.Streams)

include streams

/-- A flush of the decoder completes the text of the bytes so far. -/
theorem Inspecting.flush (inspecting : Inspecting keyword prior loop) (last : List UInt8) :
    includes (loop.overlap ++ (decoder.decode loop.state last false).1) keyword = true ↔
      keyword <:+: decoder.decodeAll (prior.flatten ++ last) := by
  rw [inspecting.includes_next, inspecting.state, streams.flushed_once]

/-- The text of the chunks so far begins the text of all bytes. -/
theorem stream_begins (chunks : List (List UInt8)) (last : List UInt8) :
    (decoder.streamFrom decoder.fresh chunks).1 <+: decoder.decodeAll (chunks.flatten ++ last) :=
  ⟨_, streams.flushed_once chunks last⟩

/-- The flush after the limit was reached adds nothing. -/
theorem flush_again (state : decoder.State) (last : List UInt8) :
    (decoder.decode (decoder.decode state last false).2 [] false).1 = [] := by
  rw [streams.resets]
  exact streams.nothing

theorem Inspecting.exact_found (inspecting : Inspecting keyword prior loop)
    (chunk rest : List UInt8) (more : loop.inspected + chunk.length < maxBodyBytes)
    (found : includes (loop.overlap ++ (decoder.decode loop.state chunk true).1) keyword = true) :
    Inspection.Exact decoder keyword (prior.flatten ++ (chunk ++ rest))
      ⟨true, loop.inspected + chunk.length⟩ := by
  have length := inspecting.inspected
  have taken : (prior.flatten ++ (chunk ++ rest)).take maxBodyBytes =
      (prior ++ [chunk]).flatten ++ rest.take (maxBodyBytes - (loop.inspected + chunk.length)) := by
    rw [← List.append_assoc, List.take_append, List.take_of_length_le
      (by simp only [List.length_append]; omega)]
    simp [length]
  have text : keyword <:+: (decoder.streamFrom decoder.fresh (prior ++ [chunk])).1 := by
    have present := (inspecting.includes_next _).mp found
    simpa [TextDecoder.stream_from_append, TextDecoder.streamFrom, inspecting.state] using present
  refine ⟨?_, more.le, fun missing => nomatch missing⟩
  rw [taken]
  exact ⟨fun _ => text.trans (stream_begins streams _ _).isInfix, fun _ => rfl⟩

/-- The chunk that reaches the limit is decoded with a flush, and whether the keyword was
found is settled there. -/
theorem Inspecting.exact_limit (inspecting : Inspecting keyword prior loop)
    (room : loop.inspected < maxBodyBytes) (chunk rest : List UInt8)
    (full : maxBodyBytes - loop.inspected ≤ chunk.length) (inspection : Inspection)
    (inspected : inspection.inspected = maxBodyBytes)
    (found_iff : inspection.found = includes (loop.overlap ++ (decoder.decode loop.state
      (chunk.take (maxBodyBytes - loop.inspected)) false).1) keyword) :
    inspection.Exact decoder keyword (prior.flatten ++ (chunk ++ rest)) := by
  have length := inspecting.inspected
  refine ⟨?_, inspected.le, fun _ => ?_⟩
  · rw [found_iff, inspecting.take_limit room chunk rest full]
    exact inspecting.flush streams _
  · rw [inspected]
    simp only [List.length_append]
    omega

theorem tail_at_limit (state : decoder.State) (last : List UInt8) (inspected count : Nat)
    (overlap : List Nat)
    (missing : ¬includes (overlap ++ (decoder.decode state last false).1) keyword = true) :
    inspectTail decoder keyword
        ⟨inspected, lastUnits count (overlap ++ (decoder.decode state last false).1),
          (decoder.decode state last false).2⟩ =
      ⟨false, inspected⟩ := by
  unfold inspectTail
  simp only [flush_again streams, List.append_nil, Inspection.mk.injEq, and_true]
  rw [← Bool.not_eq_true, includes_iff]
  intro found
  exact missing ((includes_iff _).mpr (found.trans (last_units_suffix _ _).isInfix))

/-- From a state of the loop that found nothing yet, the induction is on the chunks left. -/
theorem inspect_reads_exact (reads : List BodyRead)
    (unaborted : ∀ read ∈ reads, read.aborted = false)
    (prior : List (List UInt8)) (loop : InspectionState decoder)
    (inspecting : Inspecting keyword prior loop) (room : loop.inspected < maxBodyBytes) :
    ∃ inspection, inspectReads decoder keyword reads .complete loop = .ok inspection ∧
      inspection.Exact decoder keyword (prior.flatten ++ reads.flatMap BodyRead.bytes) := by
  induction reads generalizing prior loop with
  | nil =>
      have length := inspecting.inspected
      refine ⟨_, rfl, ?_, ?_, ?_⟩
      · rw [List.flatMap_nil, List.take_of_length_le (by simp only [List.append_nil]; omega)]
        exact inspecting.flush streams []
      · exact room.le
      · intro _
        simp only [inspectTail, List.flatMap_nil, List.append_nil]
        omega
  | cons read rest induction =>
      have length := inspecting.inspected
      have alive : read.aborted = false := unaborted read (List.mem_cons_self ..)
      have below : ¬maxBodyBytes ≤ loop.inspected := by omega
      by_cases unfilled :
          (read.bytes.take (maxBodyBytes - loop.inspected)).length < maxBodyBytes - loop.inspected
      · have whole := take_of_room unfilled
        rw [whole] at unfilled
        have more : loop.inspected + read.bytes.length < maxBodyBytes := by omega
        simp only [inspectReads, alive, Bool.false_eq_true, if_false, if_neg below, whole, more,
          decide_true]
        split
        next found =>
          exact ⟨_, rfl, inspecting.exact_found streams read.bytes _ more found⟩
        next missing =>
          rw [if_neg (by omega)]
          have exact :=
            induction (fun other member => unaborted other (List.mem_cons_of_mem _ member))
            _ _ (inspecting.next read.bytes missing) more
          simpa using exact
      · have full : maxBodyBytes - loop.inspected ≤ read.bytes.length := by
          simp only [List.length_take] at unfilled
          omega
        have reached : loop.inspected +
            (read.bytes.take (maxBodyBytes - loop.inspected)).length = maxBodyBytes := by
          simp only [List.length_take]
          omega
        simp only [inspectReads, alive, Bool.false_eq_true, if_false, if_neg below, reached,
          lt_irrefl, decide_false, le_refl, or_true, if_true]
        split
        next found =>
          exact ⟨_, rfl, inspecting.exact_limit streams room read.bytes _ full _ rfl found.symm⟩
        next missing =>
          rw [tail_at_limit streams _ _ _ _ _ missing]
          exact ⟨_, rfl, inspecting.exact_limit streams room read.bytes _ full _ rfl
            (Bool.eq_false_iff.mpr missing).symm⟩

end Search

section Program

variable {World : Type} {env : Environment World}

def BodyStream.bytes (body : BodyStream) : List UInt8 := body.reads.flatMap BodyRead.bytes

structure BodyStream.Delivered (body : BodyStream) : Prop where
  unaborted : ∀ read ∈ body.reads, read.aborted = false
  completes : body.ending = .complete

theorem code_units_ne_nil {text : String} (nonempty : text ≠ "") : codeUnits text ≠ [] := by
  intro empty
  apply nonempty
  rw [← String.toList_eq_nil_iff, List.eq_nil_iff_forall_not_mem]
  intro char member
  have units := List.flatMap_eq_nil_iff.mp empty char member
  split at units <;> cases units

theorem decompressor_for_identity {encoding : String} (identity : encoding ∈ ["", "identity"]) :
    decompressorFor encoding = .ok none := by
  unfold decompressorFor
  rw [if_pos (by simpa using identity)]

theorem assert_length_identity {headers : Headers}
    (identity : contentEncoding headers ∈ ["", "identity"]) :
    assertEncodedContentLength headers = .ok () := by
  unfold assertEncodedContentLength
  dsimp only
  rw [if_pos]
  rcases List.mem_pair.mp identity with same | same <;> rw [same] <;> decide

/-- A keyword is found in a body that is not compressed exactly if the decoded text of the
first 65536 bytes contains it, and the count of inspected bytes tells how many there were. -/
theorem inspect_keyword_exact (streams : env.textDecoder.Streams)
    (response : TransportResponse World) (keyword : String) (nonempty : keyword ≠ "")
    (identity : contentEncoding response.headers ∈ ["", "identity"]) (session : Session env)
    (delivered : (response.body.read session.world).1.Delivered) :
    ∃ inspection final, inspectKeyword response keyword session = .ok inspection final ∧
      inspection.Exact env.textDecoder (codeUnits keyword)
        (response.body.read session.world).1.bytes := by
  obtain ⟨inspection, inspected, exact⟩ := inspect_reads_exact streams
    (response.body.read session.world).1.reads delivered.unaborted [] _
    (inspecting_initially (code_units_ne_nil nonempty)) (show 0 < maxBodyBytes by decide)
  refine ⟨inspection, { session with
    world := response.body.destroy (response.body.read session.world).2 }, ?_, exact⟩
  have body : inspectBody env.textDecoder (codeUnits keyword)
      (response.body.read session.world).1 = .ok inspection := by
    unfold inspectBody
    rw [delivered.completes]
    exact inspected
  unfold inspectKeyword
  rw [assert_length_identity identity, decompressor_for_identity identity]
  change orThrow (inspectBody env.textDecoder (codeUnits keyword)
    (response.body.read session.world).1) _ = _
  rw [body]
  rfl

def sampleUrls : UrlLibrary where
  Url := Unit
  parse text := if text = "http://a.example/" then some () else none
  serialize _ := "http://a.example/"
  protocol _ := "http:"
  hostname _ := "a.example"
  search _ := ""
  withoutHash url := url
  withoutCredentials url := url
  withSearch url _ := url
  isIP _ := false
  parse_serialize _ := rfl
  without_hash_twice _ := rfl
  protocol_without_hash _ := rfl
  hostname_without_hash _ := rfl
  trim_serialize _ _ := by decide +kernel

def sampleResponse (body : BodyStream) : TransportResponse Unit where
  statusCode := 200
  headers := []
  body := ⟨fun world => (body, world), fun world => world⟩
  close world := (.ok (), world)

/-- The host has one address, without a limiter, and answers every request in the same way. -/
def sampleEnvironment (response : TransportResponse Unit) : Environment Unit where
  urls := sampleUrls
  newUrl text _ := sampleUrls.parse text
  cookies := ⟨Unit, (), fun jar _ _ => (.ok "", jar), fun jar _ _ _ => (.ok (), jar)⟩
  textDecoder := utf8Decoder
  decompress _ body := body
  aborted _ := false
  now world := (0, world)
  monotonicNow world := (0, world)
  resolve _ world := (.ok [⟨"93.184.215.14", .ipv4⟩], world)
  acquire := none
  request _ _ world := (.ok response, world)

/-- `aéx`, cut inside the second character, with an empty chunk. -/
def cutBody : BodyStream where
  reads := [⟨[0x61, 0xC3], false⟩, ⟨[], false⟩, ⟨[0xA9, 0x78], false⟩]
  ending := .complete

theorem inspect_keyword_exact_cut_body :
    ∃ inspection final,
      inspectKeyword (sampleResponse cutBody) "éx"
          (Session.start (sampleEnvironment (sampleResponse cutBody)) () "http://a.example/") =
        .ok inspection final ∧
        inspection.Exact utf8Decoder (codeUnits "éx") [0x61, 0xC3, 0xA9, 0x78] :=
  inspect_keyword_exact utf8_decoder_streams (sampleResponse cutBody) "éx" (by decide)
    (by decide +kernel) _ ⟨by decide, rfl⟩

end Program

end LinkAlive.Monitoring
