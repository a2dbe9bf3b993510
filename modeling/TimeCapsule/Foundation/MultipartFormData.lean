import TimeCapsule.Lib.Delimited
import TimeCapsule.Foundation.Streams
import TimeCapsule.Foundation.HTTPHeaders

/-!
# Multipart form data

`MultipartFormData` of Alamofire's `Features/MultipartFormData.swift` and the choice that
`MultipartUpload.build()` makes between its two encoders: `encode` gathers a body in memory,
`writeEncodedData` copies a large one to a file, at most 1024 bytes at a time.

Both give the same bytes (`build_cases`). `parse` is a server that reads such a body; it gets the
parts back just when no data holds the boundary behind a line break (`parse_data_iff`).
-/

namespace TimeCapsule.Foundation

/-- The reasons of `AFError.multipartEncodingFailed` that the encoders give. -/
inductive MultipartEncodingFailureReason where
  | inputStreamReadFailed (error : String)
  | unexpectedInputStreamLength (bytesExpected bytesRead : Nat)
  | outputStreamWriteFailed (error : String)
deriving DecidableEq

abbrev Encoding (α : Type) := Except MultipartEncodingFailureReason α

/-- A part as it has been appended; the flags are set when the form is encoded. -/
structure BodyPart where
  headers : HTTPHeaders
  bodyStream : InputStream
  bodyContentLength : Nat
  hasInitialBoundary : Bool
  hasFinalBoundary : Bool

/-- A form. No boundary that is generated has a line break. -/
structure MultipartFormData where
  boundary : String
  plain : '\r' ∉ boundary.toList
  bodyParts : List BodyPart

inductive BoundaryType where
  | initial
  | encapsulated
  | final

namespace MultipartFormData

def crlf : String := "\r\n"

/-- `%08x`. -/
def hex8 (n : UInt32) : List Char :=
  (List.range 8).reverse.map fun i => Nat.digitChar (n.toNat / 16 ^ i % 16)

/-- The boundary for two random numbers. -/
def randomBoundary (first second : UInt32) : String :=
  String.ofList ("alamofire.boundary.".toList ++ (hex8 first ++ hex8 second))

def boundaryData (boundaryType : BoundaryType) (boundary : String) : List UInt8 :=
  utf8 <| match boundaryType with
    | .initial => "--" ++ boundary ++ crlf
    | .encapsulated => crlf ++ "--" ++ boundary ++ crlf
    | .final => crlf ++ "--" ++ boundary ++ "--" ++ crlf

def streamBufferSize : Nat := 1024

/-- `MultipartUpload.encodingMemoryThreshold`, at its default. -/
def encodingMemoryThreshold : Nat := 10000000

lemma not_mem_hex8 (n : UInt32) : '\r' ∉ hex8 n := by
  have digit : ∀ k < 16, Nat.digitChar k ≠ '\r' := by decide
  intro mem
  obtain ⟨i, _, e⟩ := List.mem_map.1 mem
  exact digit _ (Nat.mod_lt _ (by omega)) e

/-- A generated boundary has no line break. -/
lemma randomBoundary_plain (first second : UInt32) :
    '\r' ∉ (randomBoundary first second).toList := by
  have text : '\r' ∉ "alamofire.boundary.".toList := by decide
  have letters : (randomBoundary first second).toList =
      "alamofire.boundary.".toList ++ (hex8 first ++ hex8 second) := String.toList_ofList
  intro mem
  rcases List.mem_append.1 (letters ▸ mem) with mem | digits
  · exact text mem
  · exact (List.mem_append.1 digits).elim (not_mem_hex8 first) (not_mem_hex8 second)

/-- `init()`, with two random numbers. -/
def init (first second : UInt32) : MultipartFormData :=
  ⟨randomBoundary first second, randomBoundary_plain first second, []⟩

/-- The disposition that `contentHeaders` builds. -/
def disposition (name : String) : Option String → String
  | some fileName =>
    "form-data; name=\"" ++ name ++ "\"" ++ ("; filename=\"" ++ fileName ++ "\"")
  | none => "form-data; name=\"" ++ name ++ "\""

def contentHeaders (name : String) (fileName mimeType : Option String) : HTTPHeaders :=
  let headers := HTTPHeaders.empty.update (.contentDisposition (disposition name fileName))
  match mimeType with
  | some mimeType => headers.add (.contentType mimeType)
  | none => headers

/-- `append(_:withLength:headers:)`. -/
def appendStream (form : MultipartFormData) (stream : InputStream) (length : Nat)
    (headers : HTTPHeaders) : MultipartFormData :=
  { form with bodyParts := form.bodyParts ++ [⟨headers, stream, length, false, false⟩] }

/-- `append(_:withName:fileName:mimeType:)` for data. -/
def append (form : MultipartFormData) (data : List UInt8) (name : String)
    (fileName mimeType : Option String) : MultipartFormData :=
  form.appendStream (.ofData data) data.length (contentHeaders name fileName mimeType)

def contentLength (form : MultipartFormData) : Nat :=
  (form.bodyParts.map (·.bodyContentLength)).sum

/-- The parts with the flags that both encoders set on the first and on the last one. -/
def flagged (form : MultipartFormData) : List BodyPart :=
  let parts := form.bodyParts.modifyHead fun part => { part with hasInitialBoundary := true }
  parts.modify (parts.length - 1) fun part => { part with hasFinalBoundary := true }

def encodeHeaders (headers : List HTTPHeader) : List UInt8 :=
  headers.flatMap (fun header => utf8 (header.name ++ ": " ++ header.value ++ crlf)) ++ utf8 crlf

/-! ## In memory -/

/-- The loop of `encodeBodyStream`. -/
def readAll (stream : InputStream) (encoded : List UInt8) : Encoding (List UInt8) :=
  if stream.hasBytesAvailable then
    match _h : stream.read streamBufferSize with
    | .error error => .error (.inputStreamReadFailed error)
    | .ok (buffer, stream') =>
      if _filled : 0 < buffer.length then readAll stream' (encoded ++ buffer) else .ok encoded
  else .ok encoded
termination_by stream.bytes.length
decreasing_by
  by_cases left : stream.pieces = []
  · rw [InputStream.read_nil left] at _h
    split at _h
    · cases _h
    · cases _h
      cases _filled
  · obtain ⟨buffer', s', e, _, _, split, _⟩ :=
      InputStream.read_pieces left (show 0 < streamBufferSize by decide)
    cases _h.symm.trans e
    rw [← split, List.length_append]
    omega

def encodeBodyStream (part : BodyPart) : Encoding (List UInt8) := do
  let encoded ← readAll part.bodyStream []
  if encoded.length = part.bodyContentLength then .ok encoded
  else .error (.unexpectedInputStreamLength part.bodyContentLength encoded.length)

def openingData (boundary : String) (part : BodyPart) : List UInt8 :=
  boundaryData (if part.hasInitialBoundary then .initial else .encapsulated) boundary

def encodePart (boundary : String) (part : BodyPart) : Encoding (List UInt8) := do
  let bodyStreamData ← encodeBodyStream part
  .ok (openingData boundary part ++ encodeHeaders part.headers.headers ++ bodyStreamData ++
    if part.hasFinalBoundary then boundaryData .final boundary else [])

def encode (form : MultipartFormData) : Encoding (List UInt8) :=
  form.flagged.foldlM (fun encoded part => do
    let encodedData ← encodePart form.boundary part
    .ok (encoded ++ encodedData)) []

/-! ## To a file -/

/-- `write(_:to:)` for a buffer: what a write did not take is written again. -/
def writeBuffer (buffer : List UInt8) (out : OutputStream) : Encoding OutputStream :=
  if _h : 0 < buffer.length then
    match _e : out.write buffer with
    | .error error => .error (.outputStreamWriteFailed error)
    | .ok (bytesWritten, out') => writeBuffer (buffer.drop bytesWritten) out'
  else .ok out
termination_by buffer.length
decreasing_by
  rcases out.write_cases _h with ⟨n, s', ok, pos, _⟩ | ⟨⟨error, failed⟩, _⟩
  · cases _e.symm.trans ok
    rw [List.length_drop]
    omega
  · cases _e.symm.trans failed

/-- The loop of `writeBodyStream`. -/
def copyAll (stream : InputStream) (bytesLeftToRead : Nat) (out : OutputStream) :
    Encoding OutputStream :=
  if _more : stream.hasBytesAvailable = true ∧ 0 < bytesLeftToRead then
    match stream.read (min streamBufferSize bytesLeftToRead) with
    | .error error => .error (.inputStreamReadFailed error)
    | .ok (buffer, stream') =>
      if _filled : 0 < buffer.length then do
        let out ← writeBuffer buffer out
        copyAll stream' (bytesLeftToRead - buffer.length) out
      else .ok out
  else .ok out
termination_by bytesLeftToRead
decreasing_by omega

def writePart (boundary : String) (part : BodyPart) (out : OutputStream) :
    Encoding OutputStream := do
  let out ← writeBuffer (openingData boundary part) out
  let out ← writeBuffer (encodeHeaders part.headers.headers) out
  let out ← copyAll part.bodyStream part.bodyContentLength out
  if part.hasFinalBoundary then writeBuffer (boundaryData .final boundary) out else .ok out

/-- `writeEncodedData(to:)`, for a file that is new. -/
def writeEncodedData (form : MultipartFormData) (out : OutputStream) : Encoding OutputStream :=
  form.flagged.foldlM (fun out part => writePart form.boundary part out) out

/-- `MultipartUpload.build()`: the bytes that are sent; `answers` is what the file does. -/
def build (form : MultipartFormData) (answers : List (Option Nat)) : Encoding (List UInt8) :=
  if form.contentLength < encodingMemoryThreshold then form.encode
  else do
    let out ← form.writeEncodedData ⟨[], answers⟩
    .ok out.written

/-! ## The bytes of a form -/

/-- A stream that does not fail and that has the length which is stated. -/
structure Complete (part : BodyPart) : Prop where
  healthy : part.bodyStream.failure = none
  length : part.bodyStream.bytes.length = part.bodyContentLength

/-- The bytes of a part. -/
def partData (boundary : String) (part : BodyPart) : List UInt8 :=
  openingData boundary part ++ encodeHeaders part.headers.headers ++ part.bodyStream.bytes ++
    if part.hasFinalBoundary then boundaryData .final boundary else []

/-- The loop in memory gathers what the stream delivers, in whatever pieces. -/
lemma readAll_eq (stream : InputStream) (healthy : stream.failure = none)
    (encoded : List UInt8) : readAll stream encoded = .ok (encoded ++ stream.bytes) := by
  induction size : stream.bytes.length using Nat.strong_induction_on generalizing stream encoded with
  | _ n ih =>
    rw [readAll]
    by_cases left : stream.pieces = []
    · have nothing : stream.hasBytesAvailable = false := by
        simp [InputStream.hasBytesAvailable, left, healthy]
      rw [nothing, if_neg Bool.false_ne_true, (InputStream.bytes_eq_nil_iff stream).2 left,
        List.append_nil]
    · have more : stream.hasBytesAvailable = true := stream.hasBytesAvailable_iff.2 (.inl left)
      obtain ⟨buffer, stream', e, filled, _, split, same⟩ :=
        InputStream.read_pieces left (show 0 < streamBufferSize by decide)
      have shorter : stream'.bytes.length < n := by
        rw [← size, ← split, List.length_append]
        omega
      rw [if_pos more, ← split, ← List.append_assoc]
      split
      · next failed => cases e.symm.trans failed
      · next ok =>
        cases e.symm.trans ok
        rw [dif_pos filled]
        exact ih _ shorter stream' (same.trans healthy) (encoded ++ buffer) rfl

/-- A complete stream is encoded as its bytes. -/
lemma encodeBodyStream_eq {part : BodyPart} (complete : Complete part) :
    encodeBodyStream part = .ok part.bodyStream.bytes := by
  rw [encodeBodyStream, readAll_eq _ complete.healthy]
  show (if _ then _ else _) = _
  rw [List.nil_append, if_pos complete.length]

lemma encodePart_eq (boundary : String) {part : BodyPart} (complete : Complete part) :
    encodePart boundary part = .ok (partData boundary part) := by
  rw [encodePart, encodeBodyStream_eq complete]
  rfl

/-! ### What a file takes -/

/-- Writing ends with the data behind what the file had, or because a write failed. -/
def Written (out : OutputStream) (data : List UInt8) (result : Encoding OutputStream) : Prop :=
  (∃ out', result = .ok out' ∧ out'.written = out.written ++ data ∧ (out.Reliable → out'.Reliable)) ∨
  (∃ error, result = .error (.outputStreamWriteFailed error)) ∧ ¬ out.Reliable

namespace Written
variable {out : OutputStream}

lemma nothing : Written out [] (.ok out) := .inl ⟨out, rfl, (List.append_nil _).symm, id⟩

/-- One write after the other. -/
lemma bind {data data' : List UInt8} {result : Encoding OutputStream}
    {next : OutputStream → Encoding OutputStream} (first : Written out data result)
    (second : ∀ out', Written out' data' (next out')) :
    Written out (data ++ data') (result >>= next) := by
  rcases first with ⟨out', rfl, written, reliable⟩ | ⟨⟨error, rfl⟩, unreliable⟩
  · rcases second out' with ⟨out'', e, written', reliable'⟩ | ⟨⟨error, e⟩, unreliable⟩
    · refine .inl ⟨out'', e, ?_, fun h => reliable' (reliable h)⟩
      rw [written', written, List.append_assoc]
    · exact .inr ⟨⟨error, e⟩, fun h => unreliable (reliable h)⟩
  · exact .inr ⟨⟨error, rfl⟩, unreliable⟩

end Written

/-- A buffer is written whole, however much each write takes. -/
lemma written_writeBuffer (buffer : List UInt8) (out : OutputStream) :
    Written out buffer (writeBuffer buffer out) := by
  induction size : buffer.length using Nat.strong_induction_on generalizing buffer out with
  | _ n ih =>
    rw [writeBuffer]
    by_cases filled : 0 < buffer.length
    · rw [dif_pos filled]
      rcases out.write_cases filled with
        ⟨taken, out', e, pos, le, written, reliable⟩ | ⟨⟨error, e⟩, unreliable⟩
      · split
        · next failed => cases e.symm.trans failed
        · next ok =>
          cases e.symm.trans ok
          have shorter : (buffer.drop taken).length < n := by
            rw [← size, List.length_drop]
            omega
          rcases ih _ shorter (buffer.drop taken) out' rfl with
            ⟨out'', e', written', reliable'⟩ | ⟨⟨error, e'⟩, unreliable⟩
          · refine .inl ⟨out'', e', ?_, fun h => reliable' (reliable h)⟩
            rw [written', written, List.append_assoc, List.take_append_drop]
          · exact .inr ⟨⟨error, e'⟩, fun h => unreliable (reliable h)⟩
      · split
        · exact .inr ⟨⟨_, rfl⟩, unreliable⟩
        · next ok => cases e.symm.trans ok
    · have nil : buffer = [] := List.eq_nil_of_length_eq_zero (by omega)
      rw [dif_neg filled, nil]
      exact Written.nothing

/-- The loop to the file copies what the stream delivers, up to the stated length. -/
lemma written_copyAll (stream : InputStream) (healthy : stream.failure = none)
    (bytesLeftToRead : Nat) (out : OutputStream) :
    Written out (stream.bytes.take bytesLeftToRead) (copyAll stream bytesLeftToRead out) := by
  induction bytesLeftToRead using Nat.strong_induction_on generalizing stream out with
  | _ n ih =>
    rw [copyAll]
    by_cases more : stream.hasBytesAvailable = true ∧ 0 < n
    · rw [dif_pos more]
      have left : stream.pieces ≠ [] :=
        (stream.hasBytesAvailable_iff.1 more.1).resolve_right fun failing => failing healthy
      have room : 0 < min streamBufferSize n := Nat.lt_min.2 ⟨by decide, more.2⟩
      obtain ⟨buffer, stream', e, filled, le, split, same⟩ := InputStream.read_pieces left room
      have fits : buffer.length ≤ n := le.trans (Nat.min_le_right _ _)
      simp only [e, dif_pos filled]
      have cut : stream.bytes.take n = buffer ++ stream'.bytes.take (n - buffer.length) := by
        rw [← split, List.take_append, List.take_of_length_le fits]
      rw [cut]
      apply (written_writeBuffer buffer out).bind
      exact fun out' => ih _ (by omega) stream' (same.trans healthy) out'
    · rw [dif_neg more]
      have nothing : stream.bytes.take n = [] := by
        by_cases zero : n = 0
        · rw [zero, List.take_zero]
        · have done : stream.pieces = [] := by
            by_contra left
            exact more ⟨stream.hasBytesAvailable_iff.2 (.inl left), by omega⟩
          rw [(InputStream.bytes_eq_nil_iff stream).2 done, List.take_nil]
      rw [nothing]
      exact Written.nothing

/-- A complete part is written as its bytes. -/
lemma written_writePart (boundary : String) {part : BodyPart} (complete : Complete part)
    (out : OutputStream) : Written out (partData boundary part) (writePart boundary part out) := by
  have body : ∀ out, Written out part.bodyStream.bytes
      (copyAll part.bodyStream part.bodyContentLength out) := by
    intro out
    have copied := written_copyAll part.bodyStream complete.healthy part.bodyContentLength out
    rwa [← complete.length, List.take_length, complete.length] at copied
  rw [partData, writePart, List.append_assoc, List.append_assoc]
  apply (written_writeBuffer _ out).bind
  intro out
  apply (written_writeBuffer _ out).bind
  intro out
  apply (body out).bind
  intro out
  split
  · exact written_writeBuffer _ out
  · exact Written.nothing

/-! ### Both encoders -/

/-- What every entry has, they have after a change that keeps it. -/
lemma forall_mem_modify {α : Type} {P : α → Prop} {f : α → α} (keeps : ∀ x, P x → P (f x))
    {l : List α} (all : ∀ x ∈ l, P x) (i : Nat) : ∀ x ∈ l.modify i f, P x := by
  induction l generalizing i with
  | nil =>
    intro x hx
    rw [List.modify_nil] at hx
    cases hx
  | cons y l ih =>
    have split := List.forall_mem_cons.1 all
    cases i with
    | zero => exact List.forall_mem_cons.2 ⟨keeps y split.1, split.2⟩
    | succ i => exact List.forall_mem_cons.2 ⟨split.1, ih split.2 i⟩

/-- The flags do not concern the streams. -/
lemma complete_flagged {form : MultipartFormData}
    (complete : ∀ part ∈ form.bodyParts, Complete part) : ∀ part ∈ form.flagged, Complete part := by
  have head : ∀ part ∈ form.bodyParts.modifyHead fun part =>
      { part with hasInitialBoundary := true }, Complete part := by
    cases parts : form.bodyParts with
    | nil => exact fun part mem => absurd mem List.not_mem_nil
    | cons part rest =>
      rw [parts] at complete
      have split := List.forall_mem_cons.1 complete
      exact List.forall_mem_cons.2 ⟨⟨split.1.healthy, split.1.length⟩, split.2⟩
  exact forall_mem_modify (P := Complete) (f := fun part => { part with hasFinalBoundary := true })
    (fun part h => ⟨h.healthy, h.length⟩) head _

/-- The bytes of a form. -/
def formData (form : MultipartFormData) : List UInt8 :=
  form.flagged.flatMap (partData form.boundary)

lemma foldlM_encodePart (boundary : String) {parts : List BodyPart}
    (complete : ∀ part ∈ parts, Complete part) (encoded : List UInt8) :
    parts.foldlM (fun encoded part => do
      let encodedData ← encodePart boundary part
      .ok (encoded ++ encodedData)) encoded =
        (.ok (encoded ++ parts.flatMap (partData boundary)) : Encoding (List UInt8)) := by
  induction parts generalizing encoded with
  | nil => simp; rfl
  | cons part parts ih =>
    have split := List.forall_mem_cons.1 complete
    rw [List.foldlM_cons, encodePart_eq boundary split.1, List.flatMap_cons, ← List.append_assoc]
    exact ih split.2 _

lemma written_foldlM (boundary : String) {parts : List BodyPart}
    (complete : ∀ part ∈ parts, Complete part) (out : OutputStream) :
    Written out (parts.flatMap (partData boundary))
      (parts.foldlM (fun out part => writePart boundary part out) out) := by
  induction parts generalizing out with
  | nil => exact Written.nothing
  | cons part parts ih =>
    have split := List.forall_mem_cons.1 complete
    rw [List.foldlM_cons, List.flatMap_cons]
    exact (written_writePart boundary split.1 out).bind (ih split.2)

/-- In memory a complete form gives its bytes. -/
lemma encode_eq {form : MultipartFormData} (complete : ∀ part ∈ form.bodyParts, Complete part) :
    form.encode = .ok form.formData := by
  rw [encode, foldlM_encodePart _ (complete_flagged complete), List.nil_append]
  rfl

/-- Whatever the file does, a complete form is sent as its bytes, or a large one fails because a
write failed. -/
lemma build_eq {form : MultipartFormData} (complete : ∀ part ∈ form.bodyParts, Complete part)
    (answers : List (Option Nat)) :
    form.build answers = .ok form.formData ∨
      (∃ error, form.build answers = .error (.outputStreamWriteFailed error)) ∧
        encodingMemoryThreshold ≤ form.contentLength ∧ none ∈ answers := by
  rw [build]
  split
  · exact .inl (encode_eq complete)
  · next large =>
    have written := written_foldlM form.boundary (complete_flagged complete) ⟨[], answers⟩
    rcases written with ⟨out, e, written, _⟩ | ⟨⟨error, e⟩, unreliable⟩
    · rw [writeEncodedData, e]
      exact .inl (congrArg Except.ok written)
    · rw [writeEncodedData, e]
      exact .inr ⟨⟨error, rfl⟩, Nat.le_of_not_lt large, Classical.not_not.1 unreliable⟩

/-! ## Appended data -/

/-- The arguments of `append(_:withName:fileName:mimeType:)`. -/
structure Appended where
  data : List UInt8
  name : String
  fileName : Option String
  mimeType : Option String

/-- The form after all calls. -/
def ofCalls (first second : UInt32) (calls : List Appended) : MultipartFormData :=
  calls.foldl (fun form call => form.append call.data call.name call.fileName call.mimeType)
    (init first second)

/-- The part of a call. -/
def Appended.part (call : Appended) : BodyPart where
  headers := contentHeaders call.name call.fileName call.mimeType
  bodyStream := .ofData call.data
  bodyContentLength := call.data.length
  hasInitialBoundary := false
  hasFinalBoundary := false

lemma foldl_append (form : MultipartFormData) (calls : List Appended) :
    calls.foldl (fun form call => form.append call.data call.name call.fileName call.mimeType) form =
      { form with bodyParts := form.bodyParts ++ calls.map Appended.part } := by
  induction calls generalizing form with
  | nil => simp
  | cons call calls ih =>
    rw [List.foldl_cons, ih, List.map_cons]
    simp [append, appendStream, Appended.part]

lemma ofCalls_eq (first second : UInt32) (calls : List Appended) :
    ofCalls first second calls = { init first second with bodyParts := calls.map Appended.part } :=
  foldl_append _ calls

/-- The stream over data gives them all. -/
lemma complete_part (call : Appended) : Complete call.part :=
  ⟨rfl, congrArg List.length (InputStream.bytes_ofData call.data)⟩

lemma complete_ofCalls (first second : UInt32) (calls : List Appended) :
    ∀ part ∈ (ofCalls first second calls).bodyParts, Complete part := by
  rw [ofCalls_eq]
  intro part mem
  obtain ⟨call, _, rfl⟩ := List.mem_map.1 mem
  exact complete_part call

/-- The end of a line. -/
def lineEnd : Delimiter UInt8 := ⟨13, [10], by decide⟩

/-- A header line; the blanks before its value do not belong to it. -/
def readHeader (line : List UInt8) : Option HTTPHeader :=
  match line.dropWhile (· != 58) with
  | _ :: value => do
    let name ← ofUTF8 (line.takeWhile (· != 58))
    let value ← ofUTF8 (value.dropWhile (· == 32))
    some ⟨name, value⟩
  | [] => none

/-- The header lines up to an empty line, and what follows it. -/
def readHeaders (l : List UInt8) : Option (List HTTPHeader × List UInt8) :=
  match lineEnd.cut l with
  | none => none
  | some (line, rest) =>
    if line.isEmpty then some ([], rest)
    else if rest.length < l.length then do
      let header ← readHeader line
      let (headers, data) ← readHeaders rest
      some (header :: headers, data)
    else none
termination_by l.length

/-- The delimiter of a boundary. -/
def delimiter (boundary : String) (plain : '\r' ∉ boundary.toList) : Delimiter UInt8 where
  first := 13
  rest := 10 :: utf8 ("--" ++ boundary)
  fresh := by
    intro mem
    rcases List.mem_cons.1 mem with e | mem
    · cases e
    · have text := mem_of_mem_utf8 (by decide) mem
      rw [String.toList_append] at text
      exact (List.mem_append.1 text).elim (by decide) plain

/-- The parts of a body: the headers of each, and its data. -/
def parse (boundary : String) (body : List UInt8) :
    Option (List (List HTTPHeader × List UInt8)) :=
  if plain : '\r' ∉ boundary.toList then
    let dashed := utf8 ("--" ++ boundary)
    if dashed <+: body then
      (delimiter boundary plain).blocks (utf8 crlf) (utf8 "--") readHeaders (body.drop dashed.length)
    else none
  else none

/-- A header that can be read back. -/
structure Readable (header : HTTPHeader) : Prop where
  name : '\r' ∉ header.name.toList ∧ ':' ∉ header.name.toList
  value : '\r' ∉ header.value.toList
  start : header.value.toList.head? ≠ some ' '

/-- No blank begins the bytes of a text that does not begin with one. -/
lemma head_utf8 {string : String} (start : string.toList.head? ≠ some ' ') :
    (utf8 string).dropWhile (· == 32) = utf8 string := by
  cases letters : string.toList with
  | nil => simp [utf8, letters]
  | cons c cs =>
    rw [letters] at start
    have bytes : utf8 string = String.utf8EncodeChar c ++ cs.flatMap String.utf8EncodeChar := by
      rw [utf8, letters, List.flatMap_cons]
    rw [bytes]
    cases first : String.utf8EncodeChar c with
    | nil => exact absurd first (by simp)
    | cons b bs =>
      have other : (b == 32) = false := by
        rw [beq_eq_false_iff_ne]
        intro e
        have known := eq_of_mem_utf8EncodeChar (c := c) (b := b) (e ▸ by decide)
          (first ▸ List.mem_cons_self)
        apply start
        rw [List.head?_cons, ← Char.ofNat_toNat c, known.2, e]
        rfl
      rw [List.cons_append, List.dropWhile_cons, other]
      rfl

/-- The bytes of a header line. -/
lemma utf8_line (header : HTTPHeader) : utf8 (header.name ++ ": " ++ header.value ++ crlf) =
    (utf8 header.name ++ 58 :: 32 :: utf8 header.value) ++ lineEnd.letters := by
  simp only [utf8_append]
  rw [show utf8 ": " = [58, 32] by decide, show utf8 crlf = lineEnd.letters by decide]
  simp

/-- A header is read back from its line. -/
lemma readHeader_line {header : HTTPHeader} (readable : Readable header) :
    readHeader (utf8 header.name ++ 58 :: 32 :: utf8 header.value) = some header := by
  have name : ∀ b ∈ utf8 header.name, (b != 58) = true := by
    intro b mem
    rw [bne_iff_ne]
    rintro rfl
    exact readable.name.2 (mem_of_mem_utf8 (by decide) mem)
  have blank : (32 :: utf8 header.value).dropWhile (· == 32) = utf8 header.value := by
    rw [List.dropWhile_cons]
    exact head_utf8 readable.start
  rw [readHeader, List.dropWhile_append_of_pos name, List.takeWhile_append_of_pos name]
  simp [blank, ofUTF8_utf8]

/-- No line end stands in a header line. -/
lemma not_infix_line {header : HTTPHeader} (readable : Readable header) :
    ¬ lineEnd.letters <:+: utf8 header.name ++ 58 :: 32 :: utf8 header.value := by
  apply Delimiter.not_infix
  intro mem
  rcases List.mem_append.1 mem with name | mem
  · exact readable.name.1 (mem_of_mem_utf8 (by decide) name)
  · rcases List.mem_cons.1 mem with e | mem
    · cases e
    · rcases List.mem_cons.1 mem with e | value
      · cases e
      · exact readable.value (mem_of_mem_utf8 (by decide) value)

/-- Headers are read back, whatever follows them. -/
lemma readHeaders_encodeHeaders {headers : List HTTPHeader}
    (readable : ∀ header ∈ headers, Readable header) (l : List UInt8) :
    readHeaders (encodeHeaders headers ++ l) = some (headers, l) := by
  induction headers with
  | nil =>
    have cut : lineEnd.cut (encodeHeaders [] ++ l) = some ([], l) :=
      Delimiter.cut_append (Delimiter.not_infix List.not_mem_nil) l
    rw [readHeaders]
    simp [cut]
  | cons header headers ih =>
    have split := List.forall_mem_cons.1 readable
    have shape : encodeHeaders (header :: headers) ++ l =
        (utf8 header.name ++ 58 :: 32 :: utf8 header.value) ++ lineEnd.letters ++
          (encodeHeaders headers ++ l) := by
      rw [encodeHeaders, List.flatMap_cons, utf8_line, encodeHeaders]
      simp only [List.append_assoc]
    have cut := Delimiter.cut_append (not_infix_line split.1) (encodeHeaders headers ++ l)
    have shorter := Delimiter.length_lt_of_cut cut
    have filled : (utf8 header.name ++ 58 :: 32 :: utf8 header.value).isEmpty = false := by
      rw [List.isEmpty_eq_false_iff]
      exact List.append_ne_nil_of_right_ne_nil _ (List.cons_ne_nil _ _)
    rw [shape, readHeaders]
    simp only [cut, filled, Bool.false_eq_true, if_false, if_pos shorter, readHeader_line split.1,
      ih split.2]
    rfl

/-! ## Reading a form back -/

/-- What a part is to a reader. -/
def item (part : BodyPart) : List HTTPHeader × List UInt8 :=
  (part.headers.headers, part.bodyStream.bytes)

/-- What follows the opening of the first part, if no flag is set on the others. -/
lemma flatMap_partData {boundary : String} (plain : '\r' ∉ boundary.toList) (first : BodyPart)
    {parts : List BodyPart} (final : first.hasFinalBoundary = false)
    (unset : ∀ part ∈ parts, part.hasInitialBoundary = false ∧ part.hasFinalBoundary = false) :
    ((first :: parts).modify parts.length fun part =>
        { part with hasFinalBoundary := true }).flatMap (partData boundary) =
      openingData boundary first ++ encodeHeaders first.headers.headers ++ first.bodyStream.bytes ++
        (delimiter boundary plain).letters ++
        (delimiter boundary plain).join (utf8 crlf) (utf8 "--") encodeHeaders (parts.map item) ++
        utf8 crlf := by
  have mark : utf8 crlf ++ utf8 "--" ++ utf8 boundary = (delimiter boundary plain).letters := by
    show _ = 13 :: 10 :: utf8 ("--" ++ boundary)
    rw [utf8_append "--", show utf8 crlf = [13, 10] by decide]
    rfl
  induction parts generalizing first with
  | nil =>
    show partData boundary _ ++ [] = _
    rw [partData, if_pos rfl, ← mark]
    simp [openingData, boundaryData, utf8_append, Delimiter.join]
  | cons second parts ih =>
    have split := List.forall_mem_cons.1 unset
    have opening : openingData boundary second =
        (delimiter boundary plain).letters ++ utf8 crlf := by
      rw [openingData, split.1.1, ← mark]
      simp [boundaryData, utf8_append]
    show partData boundary first ++ List.flatMap _ ((second :: parts).modify parts.length _) = _
    rw [ih second split.1.2 split.2, partData, final, opening, List.map_cons, Delimiter.join]
    simp [item]

/-- The bytes of a form with parts: its first boundary, and what is read behind it. -/
lemma formData_eq {form : MultipartFormData} (some : form.bodyParts ≠ [])
    (unset : ∀ part ∈ form.bodyParts,
      part.hasInitialBoundary = false ∧ part.hasFinalBoundary = false) :
    form.formData = utf8 ("--" ++ form.boundary) ++
      ((delimiter form.boundary form.plain).join (utf8 crlf) (utf8 "--") encodeHeaders
        (form.bodyParts.map item) ++ utf8 crlf) := by
  cases parts : form.bodyParts with
  | nil => exact absurd parts some
  | cons first rest =>
    rw [parts] at unset
    have split := List.forall_mem_cons.1 unset
    have flagged : form.flagged = ({ first with hasInitialBoundary := true } :: rest).modify
        rest.length fun part => { part with hasFinalBoundary := true } := by
      rw [flagged, parts]
      rfl
    rw [formData, flagged,
      flatMap_partData form.plain { first with hasInitialBoundary := true } split.1.2 split.2]
    simp [openingData, boundaryData, utf8_append, item, Delimiter.join]

/-- Arguments that fit in header lines. -/
structure Appended.Plain (call : Appended) : Prop where
  name : '\r' ∉ call.name.toList
  fileName : ∀ fileName ∈ call.fileName, '\r' ∉ fileName.toList
  mimeType : ∀ mimeType ∈ call.mimeType,
    '\r' ∉ mimeType.toList ∧ mimeType.toList.head? ≠ some ' '

/-- The disposition comes first, the type of the data after it. -/
lemma headers_contentHeaders (name : String) (fileName mimeType : Option String) :
    (contentHeaders name fileName mimeType).headers =
      .contentDisposition (disposition name fileName) :: (mimeType.map .contentType).toList := by
  cases mimeType with
  | none => rfl
  | some mimeType =>
    have apart : ¬ lowercased "Content-Disposition" = lowercased "Content-Type" := by decide
    exact (Keyed.put_cons _).trans (if_neg apart)

/-- A text in quotes. -/
lemma quoted_plain {before text : String} (start : '\r' ∉ before.toList)
    (free : '\r' ∉ text.toList) : '\r' ∉ (before ++ text ++ "\"").toList := by
  intro mem
  have letters : (before ++ text ++ "\"").toList =
      before.toList ++ text.toList ++ "\"".toList := by simp only [String.toList_append]
  rcases List.mem_append.1 (letters ▸ mem) with mem | quote
  · exact (List.mem_append.1 mem).elim start free
  · exact absurd quote (by decide)

/-- The disposition fits in a header line. -/
lemma disposition_plain {name : String} {fileName : Option String} (plain : '\r' ∉ name.toList)
    (fits : ∀ text ∈ fileName, '\r' ∉ text.toList) :
    '\r' ∉ (disposition name fileName).toList := by
  have start : '\r' ∉ "form-data; name=\"".toList := by decide
  have start' : '\r' ∉ "; filename=\"".toList := by decide
  have quoted := quoted_plain start plain
  cases fileName with
  | none => exact quoted
  | some text =>
    have letters : (disposition name (some text)).toList =
        ("form-data; name=\"" ++ name ++ "\"").toList ++
          ("; filename=\"" ++ text ++ "\"").toList := String.toList_append
    rw [letters, List.mem_append, not_or]
    exact ⟨quoted, quoted_plain start' (fits text rfl)⟩

/-- What is put behind a text does not change its first character. -/
lemma head_append {before : String} {c : Char} (first : before.toList.head? = some c)
    (text : String) : (before ++ text).toList.head? = some c := by
  rw [String.toList_append, List.head?_append, first]
  rfl

lemma head_disposition (name : String) (fileName : Option String) :
    (disposition name fileName).toList.head? = some 'f' := by
  have first : "form-data; name=\"".toList.head? = some 'f' := by decide
  have quoted := head_append (head_append first name) "\""
  cases fileName with
  | none => exact quoted
  | some text => exact head_append quoted _

/-- The headers of a part can be read back. -/
lemma readable_contentHeaders {call : Appended} (plain : call.Plain) :
    ∀ header ∈ call.part.headers.headers, Readable header := by
  intro header mem
  rw [Appended.part, headers_contentHeaders] at mem
  rcases List.mem_cons.1 mem with rfl | mem
  · have name : '\r' ∉ "Content-Disposition".toList ∧ ':' ∉ "Content-Disposition".toList := by
      decide
    refine ⟨name, disposition_plain plain.name plain.fileName, ?_⟩
    show (disposition _ _).toList.head? ≠ _
    rw [head_disposition]
    decide
  · obtain ⟨m, hm, e⟩ := Option.map_eq_some_iff.1 (Option.mem_toList.1 mem)
    subst e
    have name : '\r' ∉ "Content-Type".toList ∧ ':' ∉ "Content-Type".toList := by decide
    exact ⟨name, (plain.mimeType m hm).1, (plain.mimeType m hm).2⟩

/-- What a server should find in a body: the headers and the data of every call. -/
def contents (calls : List Appended) : List (List HTTPHeader × List UInt8) :=
  calls.map fun call =>
    ((contentHeaders call.name call.fileName call.mimeType).headers, call.data)

section Sent
variable {first second : UInt32} {calls : List Appended} {answers : List (Option Nat)}
  {body : List UInt8}

/-- The headers of every part are read back, whatever follows them. -/
lemma law_contents (plain : ∀ call ∈ calls, call.Plain) : ∀ item ∈ contents calls, ∀ l,
    readHeaders (encodeHeaders item.1 ++ l) = some (item.1, l) := by
  intro item mem l
  obtain ⟨call, hc, rfl⟩ := List.mem_map.1 mem
  exact readHeaders_encodeHeaders (readable_contentHeaders (plain call hc)) l

/-- After a boundary it is clear whether a part follows. -/
lemma marks_apart : ∀ l, ¬ utf8 "--" <+: utf8 crlf ++ l := by
  intro l start
  rw [show utf8 "--" = [45, 45] by decide, show utf8 crlf = [13, 10] by decide] at start
  exact absurd (List.cons_prefix_cons.1 start).1 (by decide)

lemma letters_delimiter {boundary : String} (plain : '\r' ∉ boundary.toList) :
    (delimiter boundary plain).letters = utf8 ("\r\n--" ++ boundary) := by
  rw [show "\r\n--" = "\r\n" ++ "--" by decide, String.append_assoc, utf8_append]
  rfl

/-- A server reads the body that is sent, from memory or through a file, as blocks. -/
lemma parse_build (parts : calls ≠ [])
    (sent : (ofCalls first second calls).build answers = .ok body) :
    parse (randomBoundary first second) body =
      (delimiter _ (randomBoundary_plain first second)).blocks (utf8 crlf) (utf8 "--") readHeaders
        ((delimiter _ (randomBoundary_plain first second)).join (utf8 crlf) (utf8 "--")
          encodeHeaders (contents calls) ++ utf8 crlf) := by
  have bodyParts : (ofCalls first second calls).bodyParts = calls.map Appended.part := by
    rw [ofCalls_eq]
  have items : (ofCalls first second calls).bodyParts.map item = contents calls := by
    rw [bodyParts, List.map_map]
    apply List.map_congr_left
    intro call _
    show (_, (InputStream.ofData call.data).bytes) = _
    rw [InputStream.bytes_ofData]
    rfl
  have data : (ofCalls first second calls).formData = body := by
    rcases build_eq (complete_ofCalls first second calls) answers with ok | ⟨⟨error, failed⟩, _⟩
    · exact Except.ok.inj (ok.symm.trans sent)
    · cases failed.symm.trans sent
  have bytes : body = utf8 ("--" ++ randomBoundary first second) ++
      ((delimiter _ (randomBoundary_plain first second)).join (utf8 crlf) (utf8 "--")
        encodeHeaders (contents calls) ++ utf8 crlf) := by
    rw [← data, formData_eq, items, ofCalls_eq]
    · rfl
    · rw [bodyParts]
      exact fun nil => parts (List.map_eq_nil_iff.1 nil)
    · rw [bodyParts]
      intro part mem
      obtain ⟨call, _, rfl⟩ := List.mem_map.1 mem
      exact ⟨rfl, rfl⟩
  rw [parse, dif_pos (randomBoundary_plain first second), bytes]
  simp only [List.prefix_append, if_true, List.drop_left]

/-- The body that is sent is read back as what was appended just when no data holds the boundary
behind a line break. -/
theorem parse_build_iff (parts : calls ≠ []) (plain : ∀ call ∈ calls, call.Plain)
    (sent : (ofCalls first second calls).build answers = .ok body) :
    parse (randomBoundary first second) body = some (contents calls) ↔
      ∀ call ∈ calls, ¬ utf8 ("\r\n--" ++ randomBoundary first second) <:+: call.data := by
  rw [parse_build parts sent, Delimiter.blocks_join_iff marks_apart (law_contents plain), contents,
    List.forall_mem_map, letters_delimiter]

/-- Data that hold the boundary are read as fewer. -/
lemma parse_build_held {call : Appended} (plain : call.Plain)
    (held : utf8 ("\r\n--" ++ randomBoundary first second) <:+: call.data)
    (sent : (ofCalls first second (call :: calls)).build answers = .ok body)
    {found : List (List HTTPHeader × List UInt8)}
    (back : parse (randomBoundary first second) body = some found) :
    ∃ headers data found', found = (headers, data) :: found' ∧
      data.length < call.data.length := by
  rw [← letters_delimiter (randomBoundary_plain first second)] at held
  rw [parse_build (List.cons_ne_nil _ _) sent, contents, List.map_cons] at back
  obtain ⟨data, found', e, lt⟩ := Delimiter.blocks_held marks_apart
    (fun l => readHeaders_encodeHeaders (readable_contentHeaders plain) l) held _ back
  exact ⟨_, data, found', e, lt⟩

end Sent

end MultipartFormData
end TimeCapsule.Foundation
