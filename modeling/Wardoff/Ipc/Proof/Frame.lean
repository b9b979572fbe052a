import Wardoff.Ipc.Frame
import Wardoff.Machine.Run

/-!
# A request line, read piece by piece

* `readIteration_piece`, `readIteration_newline`: a piece without a newline is kept while it fits,
  one with a newline completes the line.
* `readIteration_line`: so the pieces of a line come together, however it is cut.
* `parseLine_line`: the line of a request is understood.
* `frame_of_stream`: what the loop returns depends on the bytes alone (`requestOf`), not on how they
  arrive.
-/

namespace Ipc

open Text (utf8)

theorem findIdx?_newline_eq_none {bytes : List UInt8} (h : newline ∉ bytes) :
    bytes.findIdx? (· == newline) = none := by
  rw [List.findIdx?_eq_none_iff]
  intro x hx
  simp only [beq_eq_false_iff_ne, ne_eq]
  intro he
  subst he
  exact h hx

theorem findIdx?_newline {line : List UInt8} (h : newline ∉ line) (rest : List UInt8) :
    (line ++ newline :: rest).findIdx? (· == newline) = some line.length := by
  simp [List.findIdx?_append, findIdx?_newline_eq_none h, List.findIdx?_cons]

theorem take_line (line rest : List UInt8) :
    (line ++ newline :: rest).take (line.length + 1) = line ++ [newline] := by
  rw [List.take_append, List.take_of_length_le (by omega)]
  simp

/-- A piece with a newline ends the loop. -/
theorem readIteration_newline {J : Json} {line piece : List UInt8} (h : newline ∉ piece)
    (rest : List UInt8) :
    readIteration J line (.chunk (piece ++ newline :: rest)) =
      .done (if (line ++ piece).length + 1 ≤ maxRequestBytes
        then J.parseLine (line ++ piece ++ [newline])
        else .error oversizeRequestError) := by
  simp only [readIteration, findIdx?_newline h, take_line, Option.isSome_some, if_true,
    List.length_append, List.append_assoc]
  by_cases hlong : maxRequestBytes < line.length + (piece.length + 1)
  · rw [if_pos hlong, if_neg (by omega)]
  · rw [if_neg hlong, if_pos (by omega)]

/-- A piece without one does so if it takes the line to the limit. -/
theorem readIteration_piece {J : Json} {line bytes : List UInt8} (h : newline ∉ bytes) :
    readIteration J line (.chunk bytes) =
      if maxRequestBytes ≤ (line ++ bytes).length then .done (.error oversizeRequestError)
      else .more (line ++ bytes) := by
  simp only [readIteration, findIdx?_newline_eq_none h, List.take_length, Option.isSome_none,
    Bool.false_eq_true, if_false, List.length_append]
  by_cases hlong : maxRequestBytes < line.length + bytes.length
  · rw [if_pos hlong, if_pos (by omega)]
  · rw [if_neg hlong]
    by_cases hfull : line.length + bytes.length = maxRequestBytes
    · rw [if_pos hfull, if_pos (by omega)]
    · rw [if_neg hfull, if_neg (by omega)]

/-- A piece without a newline is kept while it fits. -/
theorem readIteration_more {J : Json} {line chunk : List UInt8} (hc : newline ∉ chunk)
    (hlen : (line ++ chunk).length < maxRequestBytes) :
    readIteration J line (.chunk chunk) = .more (line ++ chunk) := by
  rw [readIteration_piece hc, if_neg (by omega)]

/-- A piece that ends with the first newline completes the line. -/
theorem readIteration_done {J : Json} {line chunk : List UInt8} (hc : newline ∉ chunk)
    (hlen : (line ++ chunk).length < maxRequestBytes) :
    readIteration J line (.chunk (chunk ++ [newline])) =
      .done (J.parseLine (line ++ (chunk ++ [newline]))) := by
  rw [readIteration_newline hc [], if_pos (by omega), List.append_assoc]

/-- A line read piece by piece: as long as something of it is missing the loop goes on, and with its
last piece the line is parsed. -/
theorem readIteration_line {J : Json} {payload line chunk rest : List UInt8}
    (hp : newline ∉ payload) (hlen : payload.length < maxRequestBytes) (hne : chunk ≠ [])
    (h : line ++ chunk ++ rest = payload ++ [newline]) :
    readIteration J line (.chunk chunk) = .more (line ++ chunk) ∨
      readIteration J line (.chunk chunk) = .done (J.parseLine (payload ++ [newline])) := by
  rcases List.eq_nil_or_concat rest with rfl | ⟨rest', x, rfl⟩
  · obtain ⟨chunk', x, rfl⟩ := (List.eq_nil_or_concat chunk).resolve_left hne
    rw [List.append_nil, List.concat_eq_append, ← List.append_assoc] at h
    obtain ⟨rfl, hx⟩ := List.append_inj' h rfl
    cases hx
    rw [List.concat_eq_append, readIteration_done (fun hc => hp (by simp [hc])) hlen,
      List.append_assoc]
    exact .inr rfl
  · rw [List.concat_eq_append, ← List.append_assoc] at h
    obtain ⟨rfl, -⟩ := List.append_inj' h rfl
    refine .inl (readIteration_more (fun hc => hp (by simp [hc])) ?_)
    rw [List.length_append] at hlen
    omega

/-! ## The line of a request -/

section
variable {J : Json} {request : IpcRequest}

theorem newline_notMem_line (h : J.Carries request) : newline ∉ J.line request := h.line.newline

/-- The line is valid UTF-8, is not blank, and comes back without its newline. -/
theorem parseLine_line (h : J.Carries request) :
    J.parseLine (J.line request ++ [newline]) = .ok request := by
  have hbytes : J.line request ++ [newline] = utf8 (J.encode request ++ "\n") := by
    rw [Text.utf8_append]
    rfl
  have htext : String.fromUTF8? ⟨(J.line request ++ [newline]).toArray⟩ =
    some (J.encode request ++ "\n") := by
    rw [hbytes]
    exact Text.ofUtf8?_utf8 _
  simp only [Json.parseLine, htext, h.line.not_blank, h.line.trimEnd_append, h.decoded]
  rfl

end

/-! ## The request that stops the control server -/

/-- `IpcRequest::ShutdownServer` on the wire, without its newline. -/
def shutdownServerText : String := "\x7b\"command\":\"shutdown_server\"\x7d"

/-- `serde_json` writes `ShutdownServer` as an internally tagged object, and reads it back. -/
structure Json.KnowsShutdown (J : Json) : Prop where
  encode : J.encode .shutdownServer = shutdownServerText
  decode : J.decode shutdownServerText = .ok .shutdownServer

namespace Json.KnowsShutdown

variable {J : Json} (h : J.KnowsShutdown)
include h

theorem carries : J.Carries .shutdownServer where
  line := by
    rw [h.encode]
    decide +kernel
  decoded := by rw [h.encode, h.decode]

theorem length_lt : J.shutdownServer.length < maxRequestBytes := by
  rw [Json.shutdownServer, Json.line, h.encode]
  decide +kernel

end Json.KnowsShutdown

/-! ## The loop -/

/-- What a stream of bytes that ends comes to. -/
def requestOf (J : Json) (stream : List UInt8) : Except String IpcRequest :=
  match stream.findIdx? (· == newline) with
  | some position =>
    if position + 1 ≤ maxRequestBytes then J.parseLine (stream.take (position + 1))
    else .error oversizeRequestError
  | none =>
    if maxRequestBytes ≤ stream.length then .error oversizeRequestError
    else .error (incompleteRequestError stream.isEmpty)

section
variable {J : Json} {line bytes rest : List UInt8}

/-- A stream with a newline. -/
theorem requestOf_line (h : newline ∉ line) (rest : List UInt8) :
    requestOf J (line ++ newline :: rest) =
      if line.length + 1 ≤ maxRequestBytes then J.parseLine (line ++ [newline])
      else .error oversizeRequestError := by
  simp only [requestOf, findIdx?_newline h, take_line]

/-- A stream whose first newline, if any, comes too late. -/
theorem requestOf_oversize (h : newline ∉ line) (hlen : maxRequestBytes ≤ line.length)
    (rest : List UInt8) :
    requestOf J (line ++ rest) = .error oversizeRequestError := by
  unfold requestOf
  split
  · rename_i position hpos
    have hge : line.length ≤ position := by
      rw [List.findIdx?_append, findIdx?_newline_eq_none h, Option.none_or,
        Option.map_eq_some_iff] at hpos
      obtain ⟨index, -, rfl⟩ := hpos
      omega
    rw [if_neg (by omega)]
  · rw [if_pos (by rw [List.length_append]; omega)]

theorem requestOf_incomplete (h : newline ∉ line) (hlen : line.length < maxRequestBytes) :
    requestOf J line = .error (incompleteRequestError line.isEmpty) := by
  simp only [requestOf, findIdx?_newline_eq_none h]
  rw [if_neg (by omega)]

/-- The first newline of a piece that has one. -/
theorem exists_line_of_mem (h : newline ∈ bytes) :
    ∃ line rest, bytes = line ++ newline :: rest ∧ newline ∉ line := by
  obtain ⟨line, rest, rfl, hline⟩ := List.eq_append_cons_of_mem h
  exact ⟨line, rest, rfl, hline⟩

theorem readIteration_more_eq {outcome : ReadOutcome} {after : List UInt8}
    (h : readIteration J line outcome = .more after) : after = requestLineAfter line outcome := by
  cases outcome with
  | chunk bytes =>
    simp only [readIteration] at h
    split_ifs at h with hlong hdone hfull
    cases h
    simp only [requestLineAfter, if_neg hlong]
  | noData =>
    cases h
    rfl
  | _ => cases h

/-- The buffer stays within the limit. -/
theorem length_requestLineAfter (h : line.length ≤ maxRequestBytes) (outcome : ReadOutcome) :
    (requestLineAfter line outcome).length ≤ maxRequestBytes := by
  cases outcome with
  | chunk bytes =>
    simp only [requestLineAfter]
    generalize (match bytes.findIdx? (· == newline) with
      | some position => position + 1
      | none => bytes.length) = lineBytes
    split_ifs with hlong
    · exact h
    · rw [List.length_append, List.length_take]
      omega
  | _ => exact h

/-! The three kinds of step. -/

section
variable {r : ReadLoop} {outcome : ReadOutcome}

theorem ReadLoop.step_returned {result : Except String IpcRequest} (h : r.result = some result) :
    r.step J outcome = r := by
  simp only [ReadLoop.step, h]

theorem ReadLoop.step_more {after : List UInt8} (hnone : r.result = none)
    (h : readIteration J r.requestLine outcome = .more after) :
    r.step J outcome = { requestLine := after } := by
  simp only [ReadLoop.step, hnone, h]

theorem ReadLoop.step_done {result : Except String IpcRequest} (hnone : r.result = none)
    (h : readIteration J r.requestLine outcome = .done result) :
    (r.step J outcome).result = some result := by
  simp only [ReadLoop.step, hnone, h]

end

/-- What the loop knows of the stream so far: it has seen no newline and keeps it all, or its result
is that of every stream that begins so. -/
def Tracks (J : Json) (r : ReadLoop) (stream : List UInt8) : Prop :=
  (r.result = none ∧ r.requestLine = stream ∧ newline ∉ stream ∧ stream.length < maxRequestBytes) ∨
    ∃ result, r.result = some result ∧ ∀ rest, requestOf J (stream ++ rest) = result

theorem tracks_chunk {r : ReadLoop} {stream : List UInt8} (h : Tracks J r stream)
    (bytes : List UInt8) :
    Tracks J (r.step J (.chunk bytes)) (stream ++ bytes) := by
  rcases h with ⟨hnone, rfl, hline, hlen⟩ | ⟨result, hsome, hall⟩
  · by_cases hmem : newline ∈ bytes
    · obtain ⟨piece, after, rfl, hpiece⟩ := exists_line_of_mem hmem
      have hstart : newline ∉ r.requestLine ++ piece := by simp [hline, hpiece]
      refine .inr ⟨_, ReadLoop.step_done hnone (readIteration_newline hpiece after), fun rest => ?_⟩
      rw [← List.append_assoc, List.append_assoc, List.cons_append]
      exact requestOf_line hstart (after ++ rest)
    · have hstart : newline ∉ r.requestLine ++ bytes := by simp [hline, hmem]
      by_cases hlong : maxRequestBytes ≤ (r.requestLine ++ bytes).length
      · refine .inr ⟨.error oversizeRequestError, ReadLoop.step_done hnone ?_,
          requestOf_oversize hstart hlong⟩
        rw [readIteration_piece hmem, if_pos hlong]
      · have hmore : readIteration J r.requestLine (.chunk bytes) =
          .more (r.requestLine ++ bytes) := by
          rw [readIteration_piece hmem, if_neg hlong]
        rw [ReadLoop.step_more hnone hmore]
        exact .inl ⟨rfl, rfl, hstart, by omega⟩
  · rw [ReadLoop.step_returned hsome]
    refine .inr ⟨result, hsome, fun rest => ?_⟩
    rw [List.append_assoc]
    exact hall _

end

/-- The bytes of a read. -/
def ReadOutcome.bytes : ReadOutcome → List UInt8
  | .chunk bytes => bytes
  | _ => []

/-- A read that gets some bytes, at most as many as the buffer holds, or finds none yet. -/
def ReadOutcome.Delivers : ReadOutcome → Prop
  | .chunk bytes => 1 ≤ bytes.length ∧ bytes.length ≤ 512
  | .noData => True
  | _ => False

/-- The stream ends. -/
def ReadOutcome.Ends (outcome : ReadOutcome) : Prop := outcome = .eof ∨ outcome = .brokenPipe

/-- The error of a request that does not arrive in time. -/
def requestTimeoutError : String := "Wardoff timed out reading an IPC request."

section
variable {J : Json} {reads : List ReadOutcome} {r : ReadLoop} {stream : List UInt8}

theorem tracks_reads (hreads : ∀ outcome ∈ reads, outcome.Delivers) (h : Tracks J r stream) :
    Tracks J (reads.foldl (ReadLoop.step J) r) (stream ++ reads.flatMap ReadOutcome.bytes) := by
  induction reads generalizing r stream with
  | nil => simpa using h
  | cons outcome reads ih =>
    have hrest : ∀ outcome ∈ reads, outcome.Delivers :=
      fun o ho => hreads o (List.mem_cons_of_mem _ ho)
    rw [List.foldl_cons, List.flatMap_cons, ← List.append_assoc]
    refine ih hrest ?_
    cases outcome with
    | chunk bytes => exact tracks_chunk h bytes
    | noData =>
      rw [show ReadOutcome.noData.bytes = [] from rfl, List.append_nil]
      rcases h with ⟨hnone, hline⟩ | ⟨result, hsome, hall⟩
      · rw [ReadLoop.step_more hnone rfl]
        exact .inl ⟨rfl, hline⟩
      · rw [ReadLoop.step_returned hsome]
        exact .inr ⟨result, hsome, hall⟩
    | _ => exact (hreads _ (List.mem_cons_self ..)).elim

theorem tracks_init : Tracks J {} [] := .inl ⟨rfl, rfl, by simp, by decide⟩

/-- The end of the stream. -/
theorem tracks_end {ending : ReadOutcome} (hend : ending.Ends) (h : Tracks J r stream) :
    (r.step J ending).result = some (requestOf J stream) := by
  rcases h with ⟨hnone, rfl, hline, hlen⟩ | ⟨result, hsome, hall⟩
  · rw [requestOf_incomplete hline hlen]
    rcases hend with rfl | rfl <;> exact ReadLoop.step_done hnone rfl
  · have hresult := hall []
    rw [List.append_nil] at hresult
    rw [ReadLoop.step_returned hsome, hsome, hresult]

/-- The deadline passes: the result is there already, or it is the timeout. -/
theorem tracks_timedOut (h : Tracks J r stream) (rest : List UInt8) :
    (r.step J .timedOut).result = some (requestOf J (stream ++ rest)) ∨
      (r.step J .timedOut).result = some (.error requestTimeoutError) := by
  rcases h with ⟨hnone, -⟩ | ⟨result, hsome, hall⟩
  · exact .inr (ReadLoop.step_done hnone rfl)
  · exact .inl (by rw [ReadLoop.step_returned hsome, hsome, hall rest])

theorem length_requestLine (outcomes : List ReadOutcome) :
    (readRequestUntilDeadline J outcomes).requestLine.length ≤ maxRequestBytes := by
  refine Machine.inv_of_foldl (I := fun r : ReadLoop => r.requestLine.length ≤ maxRequestBytes)
    (fun r outcome hr => ?_) (by decide)
  unfold ReadLoop.step
  split
  · exact hr
  · split
    · rename_i line hmore
      rw [readIteration_more_eq hmore]
      exact length_requestLineAfter hr outcome
    · exact length_requestLineAfter hr outcome

end

/-- **A request depends only on the bytes.** However a stream is cut into reads, and however many
polls come between them, the loop returns the same result; a deadline that passes at any point can
only turn it into the timeout. The buffer never holds more than a request may. -/
theorem frame_of_stream (J : Json) (reads : List ReadOutcome) (ending : ReadOutcome)
    (hreads : ∀ outcome ∈ reads, outcome.Delivers) (hend : ending.Ends) :
    (readRequestUntilDeadline J (reads ++ [ending])).result =
        some (requestOf J (reads.flatMap ReadOutcome.bytes)) ∧
      (∀ n, (readRequestUntilDeadline J ((reads ++ [ending]).take n ++ [.timedOut])).result =
          some (requestOf J (reads.flatMap ReadOutcome.bytes)) ∨
        (readRequestUntilDeadline J ((reads ++ [ending]).take n ++ [.timedOut])).result =
          some (.error requestTimeoutError)) ∧
      ∀ outcomes, (readRequestUntilDeadline J outcomes).requestLine.length ≤ maxRequestBytes := by
  have hwhole : (readRequestUntilDeadline J (reads ++ [ending])).result =
      some (requestOf J (reads.flatMap ReadOutcome.bytes)) := by
    rw [readRequestUntilDeadline, List.foldl_append]
    exact tracks_end hend (tracks_reads hreads tracks_init)
  refine ⟨hwhole, fun n => ?_, length_requestLine⟩
  by_cases hn : n ≤ reads.length
  · have htaken : ∀ outcome ∈ reads.take n, outcome.Delivers := fun o ho =>
      hreads o (List.mem_of_mem_take ho)
    have hsplit : reads.flatMap ReadOutcome.bytes =
        (reads.take n).flatMap ReadOutcome.bytes ++ (reads.drop n).flatMap ReadOutcome.bytes := by
      rw [← List.flatMap_append, List.take_append_drop]
    rw [List.take_append_of_le_length hn, readRequestUntilDeadline, List.foldl_append, hsplit]
    exact tracks_timedOut (tracks_reads htaken tracks_init) _
  · have hall : (reads ++ [ending]).take n = reads ++ [ending] := by
      refine List.take_of_length_le ?_
      rw [List.length_append, List.length_singleton]
      omega
    left
    rw [hall, readRequestUntilDeadline, List.foldl_append]
    rw [readRequestUntilDeadline] at hwhole
    rw [List.foldl_cons, List.foldl_nil, ReadLoop.step_returned hwhole, hwhole]

/-- The texts of `serde_json` for the requests. -/
def requestText : IpcRequest → String
  | .setMode .block => "\x7b\"command\":\"set_mode\",\"mode\":\"block\"\x7d"
  | .setMode .allow => "\x7b\"command\":\"set_mode\",\"mode\":\"allow\"\x7d"
  | .setAutostart true => "\x7b\"command\":\"set_autostart\",\"enabled\":true\x7d"
  | .setAutostart false => "\x7b\"command\":\"set_autostart\",\"enabled\":false\x7d"
  | .status => "\x7b\"command\":\"status\"\x7d"
  | .shutdownServer => shutdownServerText

/-- `serde_json` on the texts that it writes itself. -/
def Json.sample : Json where
  encode := requestText
  decode text :=
    match [.setMode .block, .setMode .allow, .setAutostart true, .setAutostart false, .status,
        .shutdownServer].find? (requestText · == text) with
    | some request => .ok request
    | none => .error "expected value at line 1 column 1"
  utf8Error _ := "invalid utf-8 sequence of 1 bytes from index 0"

theorem Json.sample_carries (request : IpcRequest) : Json.sample.Carries request := by
  rcases request with (_ | _) | (_ | _) | _ | _ <;> exact ⟨by decide +kernel, by decide +kernel⟩

/-- The request arrives in two pieces, with more bytes after its newline. -/
theorem frame_of_stream_split :
    (readRequestUntilDeadline Json.sample
      [.chunk (Json.sample.shutdownServer.take 7), .noData,
        .chunk (Json.sample.shutdownServer.drop 7 ++ [newline, 0x7b]), .brokenPipe]).result =
      some (.ok .shutdownServer) := by
  have hcarries := Json.sample_carries .shutdownServer
  have hframe := frame_of_stream Json.sample
    [.chunk (Json.sample.shutdownServer.take 7), .noData,
      .chunk (Json.sample.shutdownServer.drop 7 ++ [newline, 0x7b])] .brokenPipe
    (by simp only [List.mem_cons, List.not_mem_nil, or_false, forall_eq_or_imp, forall_eq,
          ReadOutcome.Delivers]; decide +kernel) (.inr rfl)
  refine hframe.1.trans ?_
  have hstream : [ReadOutcome.chunk (Json.sample.shutdownServer.take 7), .noData,
      .chunk (Json.sample.shutdownServer.drop 7 ++ [newline, 0x7b])].flatMap ReadOutcome.bytes =
      Json.sample.line .shutdownServer ++ newline :: [0x7b] := by decide +kernel
  have hlt : (Json.sample.line .shutdownServer).length + 1 ≤ maxRequestBytes := by decide +kernel
  rw [hstream, requestOf_line (newline_notMem_line hcarries), if_pos hlt, parseLine_line hcarries]

end Ipc
