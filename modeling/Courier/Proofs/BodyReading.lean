import Courier.Proofs.Endings
import Courier.Proofs.Hops

/-! # Reading a body

A body is read frame by frame into a buffer, which at each turn holds fewer octets than the limit. So
what is read depends only on the octets that the frames bring, all together: once there are enough of
them the reading is over, and it is not over before that unless no more come.
-/

namespace Courier

namespace Wire

/-- The octets that a frame brings. -/
def Frame.octets : Frame → Bytes
  | .data bytes => bytes
  | .trailers => []

/-- The octets that frames bring. -/
def octets (frames : List Frame) : Bytes := frames.flatMap Frame.octets

/-- How many octets are read at most under a cap. -/
def readLimit (cap : Nat) : Nat := if cap = 0 then noCap else cap

theorem readLimit_pos (cap : Nat) : 0 < readLimit cap := by
  unfold readLimit
  split
  · decide
  · omega

/-- Reading depends only on the octets that the frames bring. -/
theorem readFrames_eq {limit : Nat} (finish : Finish) {buffer : Bytes}
    (room : buffer.length < limit) (frames : List Frame) :
    readFrames limit finish buffer frames =
      if limit ≤ (buffer ++ octets frames).length then .ok ((buffer ++ octets frames).take limit)
      else finish.result (buffer ++ octets frames) := by
  induction frames generalizing buffer with
  | nil =>
    have short : ¬ limit ≤ (buffer ++ octets []).length := by simpa [octets] using room
    rw [if_neg short]
    simp [readFrames, octets]
  | cons frame rest ih =>
    cases frame with
    | trailers => exact ih room
    | data bytes =>
      have brought : octets (.data bytes :: rest) = bytes ++ octets rest := rfl
      simp only [readFrames]
      split
      · rename_i enough
        have long : limit ≤ (buffer ++ octets (.data bytes :: rest)).length := by
          rw [brought, List.length_append, List.length_append]
          omega
        rw [if_pos long, brought, List.take_append, List.take_of_length_le (Nat.le_of_lt room),
          List.take_append_of_le_length enough]
      · rename_i lacking
        have room' : (buffer ++ bytes).length < limit := by
          rw [List.length_append]
          omega
        rw [ih room', brought, List.append_assoc]

theorem readBody_eq (cap : Nat) (frames : List Frame) (finish : Finish) :
    readBody cap ⟨frames, finish⟩ =
      if readLimit cap ≤ (octets frames).length then .ok ((octets frames).take (readLimit cap))
      else finish.result (octets frames) := by
  have room : ([] : Bytes).length < readLimit cap := readLimit_pos cap
  have read := readFrames_eq finish room frames
  rwa [List.nil_append] at read

/-- What is kept of a body is no more than the cap. -/
theorem length_le_of_readBody {cap : Nat} {body : Incoming} {kept : Bytes} (capped : cap ≠ 0)
    (read : readBody cap body = .ok kept) : kept.length ≤ cap := by
  obtain ⟨frames, finish⟩ := body
  have limit : readLimit cap = cap := if_neg capped
  rw [readBody_eq, limit] at read
  split at read
  · cases read
    exact List.length_take_le ..
  · cases finish with
    | complete =>
      cases read
      omega
    | broken fault => cases read
    | stalled => cases read

/-! ## Within bounds -/

/-- The difference of two counts, unless it is less than nothing. -/
def minus? (count less : Nat) : Option Nat := if less ≤ count then some (count - less) else none

/-- The first octets, unless there are too few. -/
def slice? (bytes : Bytes) (count : Nat) : Option Bytes :=
  if count ≤ bytes.length then some (bytes.take count) else none

/-- Reading that breaks off at a difference less than nothing, and at a slice out of bounds. -/
def readFrames? (limit : Nat) (finish : Finish) (buffer : Bytes) :
    List Frame → Option (Except Failure Bytes)
  | [] => some (finish.result buffer)
  | .trailers :: rest => readFrames? limit finish buffer rest
  | .data bytes :: rest =>
    (minus? limit buffer.length).bind fun room =>
      if room ≤ bytes.length then (slice? bytes room).map fun kept => .ok (buffer ++ kept)
      else readFrames? limit finish (buffer ++ bytes) rest

/-- As long as the buffer holds fewer octets than the limit, reading does not break off. -/
theorem readFrames?_eq {limit : Nat} (finish : Finish) {buffer : Bytes}
    (room : buffer.length < limit) (frames : List Frame) :
    readFrames? limit finish buffer frames = some (readFrames limit finish buffer frames) := by
  induction frames generalizing buffer with
  | nil => rfl
  | cons frame rest ih =>
    cases frame with
    | trailers => exact ih room
    | data bytes =>
      have difference : minus? limit buffer.length = some (limit - buffer.length) :=
        if_pos (Nat.le_of_lt room)
      simp only [readFrames?, readFrames, difference, Option.bind_some]
      split
      · rename_i enough
        rw [slice?, if_pos enough]
        rfl
      · rename_i lacking
        refine ih ?_
        rw [List.length_append]
        omega

end Wire

/-! ## The body of a response -/

namespace Exchange

variable {strategy : Strategy} {request : Request} {redirects : UInt32} {response : Response}

/-- A response puts together what the head and the body of an answer say. -/
theorem receive_eq_ok {answer : Answer}
    (received : receive strategy request redirects answer = .ok response) :
    ∃ (head : Head) (body : Wire.Incoming) (kept : Bytes),
      Wire.readBody request.bodyCap body = .ok kept ∧
      response = ⟨head.status, head.version, head.headers, kept, request, redirects, strategy⟩ := by
  unfold receive at received
  split at received
  · cases received
  · split at received
    · cases received
    · cases received
    · rename_i head body _
      cases read : Wire.readBody request.bodyCap body with
      | error failure =>
        rw [read] at received
        cases received
      | ok kept =>
        rw [read] at received
        cases received
        exact ⟨head, body, kept, read, rfl⟩

/-- A response is received in answer to what is sent. -/
theorem exists_receive {network : Network} {log : Log} {caller : Caller}
    (obtained : (conduct network log caller strategy request redirects).result = .ok response) :
    ∃ answer, receive strategy request redirects answer = .ok response := by
  have ended := ending network log caller strategy request redirects
  generalize conduct network log caller strategy request redirects = outcome at ended obtained
  cases ended with
  | refused failure reason => cases obtained
  | givenUp passed given => cases obtained
  | unready failure passed patient reason => cases obtained
  | answered sent passed patient prepared =>
    refine ⟨(network.reply log sent).answer request.method, ?_⟩
    cases received : receive strategy request redirects
        ((network.reply log sent).answer request.method) with
    | error failure =>
      rw [received] at obtained
      cases obtained
    | ok other =>
      rw [received] at obtained
      exact obtained

end Exchange

/-- No unit hands out a response whose body exceeds the cap of its request. -/
theorem ExecutionUnit.length_body_le {network : Network} {log : Log} {caller : Caller}
    {unit : ExecutionUnit} {response : Response}
    (obtained : (unit.execute network log caller).result = .ok response)
    (capped : response.request.bodyCap ≠ 0) :
    response.body.length ≤ response.request.bodyCap := by
  unfold execute at obtained
  split at obtained
  · obtain ⟨answer, received⟩ := Exchange.exists_receive obtained
    obtain ⟨head, body, kept, read, rfl⟩ := Exchange.receive_eq_ok received
    exact Wire.length_le_of_readBody capped read
  · cases obtained

namespace Wire

/-- A body is read to its cap. As soon as so many octets have come, these are the result, whatever
follows. When fewer have come and no more come, the result is all of them if the body is complete,
and else the failure of what broke it off, or of the deadline. Without a cap it is all octets or a
failure. So nothing depends on how the octets are divided into frames; no difference on the way is
less than nothing, and no slice is out of bounds; and no response has a body that exceeds its cap. -/
theorem body_read_to_cap (cap : Nat) (frames : List Frame) :
    (readLimit cap ≤ (octets frames).length → ∀ more finish,
      readBody cap ⟨frames ++ more, finish⟩ = .ok ((octets frames).take (readLimit cap))) ∧
    ((octets frames).length < readLimit cap →
      readBody cap ⟨frames, .complete⟩ = .ok (octets frames) ∧
      (∀ fault, readBody cap ⟨frames, .broken fault⟩ = .error (bodyFailure fault.cause)) ∧
      readBody cap ⟨frames, .stalled⟩ = .error (.timeout .read)) ∧
    (cap = 0 → (octets frames).length ≤ noCap → ∀ finish kept,
      readBody cap ⟨frames, finish⟩ = .ok kept → kept = octets frames) ∧
    (∀ others, octets others = octets frames → ∀ finish,
      readBody cap ⟨others, finish⟩ = readBody cap ⟨frames, finish⟩) ∧
    (∀ finish, readFrames? (readLimit cap) finish [] frames =
      some (readBody cap ⟨frames, finish⟩)) ∧
    ∀ (network : Network) (log : Log) (caller : Caller) (unit : ExecutionUnit)
      (response : Response), (unit.execute network log caller).result = .ok response →
      response.request.bodyCap ≠ 0 → response.body.length ≤ response.request.bodyCap := by
  refine ⟨?_, ?_, ?_, ?_, ?_, ?_⟩
  · intro enough more finish
    have brought : octets (frames ++ more) = octets frames ++ octets more := List.flatMap_append
    have long : readLimit cap ≤ (octets (frames ++ more)).length := by
      rw [brought, List.length_append]
      omega
    rw [readBody_eq, if_pos long, brought, List.take_append_of_le_length enough]
  · intro lacking
    have short := Nat.not_le.mpr lacking
    refine ⟨?_, fun fault => ?_, ?_⟩ <;> rw [readBody_eq, if_neg short] <;> rfl
  · rintro rfl countable finish kept read
    rw [readBody_eq] at read
    split at read
    · cases read
      exact List.take_of_length_le countable
    · cases finish with
      | complete => exact (Except.ok.inj read).symm
      | broken fault => cases read
      | stalled => cases read
  · intro others same finish
    rw [readBody_eq, readBody_eq, same]
  · exact fun finish => readFrames?_eq finish (readLimit_pos cap) frames
  · exact fun network log caller unit response obtained => ExecutionUnit.length_body_le obtained

end Wire

end Courier
