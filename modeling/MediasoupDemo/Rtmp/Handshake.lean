import MediasoupDemo.Lib.WhileLoop
import MediasoupDemo.Runtime.InputStream

/-!
# The handshake

`readS1` and `readS2` fill buffers by bulk reads, one loop for each buffer.  The loops differ in
what they do when `read` answers `-1` (`AtEnd`).  That of `readS1` asks again, so it does not end
if the stream does.  `endsWell_of_ends` is for the others, and for streams that are long enough.
-/

namespace MediasoupDemo.Rtmp.Handshake

open MediasoupDemo.Runtime InputStream Method WhileLoop

def HANDSHAKE_SIZE : Nat := 1536

/-- What a loop does when `read` answers `-1`. -/
inductive AtEnd where
  | goesOn
  | throws (message : String)
  | leaves

/-- A loop that fills a buffer, and the name of the buffer in the test behind the loop, if there
is one. -/
structure Part where
  size : Nat
  totalBytesRead : Nat := 0
  lt : totalBytesRead < size := by decide
  atEnd : AtEnd
  tested : Option String := none

/-- The loops of a method that have not ended, and the stream. -/
structure Reading where
  parts : List Part
  input : InputStream

/-- The test `totalBytesRead != size` behind a loop. -/
def Part.test (part : Part) (totalBytesRead : Nat) : Except JavaException Unit :=
  match part.tested with
  | some name =>
      if totalBytesRead ≠ part.size then
        throw (.io ("Unexpected EOF while reading " ++ name ++ ", expected " ++
          toString part.size ++ " bytes, but only read " ++ toString totalBytesRead ++ " bytes"))
      else pure ()
  | none => pure ()

/-- A turn of the first loop, or the end of the method. -/
def turn : Reading → Except JavaException (InputStream ⊕ Reading)
  | ⟨[], input⟩ => pure (.inl input)
  | ⟨part :: parts, input⟩ =>
      match (readSome (part.size - part.totalBytesRead)).run input with
      | .error e _ => throw e
      | .ok none input =>
          match part.atEnd with
          | .goesOn => pure (.inr ⟨part :: parts, input⟩)
          | .throws message => throw (.io message)
          | .leaves => do
              part.test part.totalBytesRead
              pure (.inr ⟨parts, input⟩)
      | .ok (some bytes) input =>
          let totalBytesRead := part.totalBytesRead + bytes.length
          if h : totalBytesRead < part.size then
            pure (.inr ⟨{ part with totalBytesRead, lt := h } :: parts, input⟩)
          else do
            part.test totalBytesRead
            pure (.inr ⟨parts, input⟩)

def readS1 : List Part := [{ size := HANDSHAKE_SIZE, atEnd := .goesOn, tested := some "S1" }]

def readS2 : List Part :=
  [{ size := 4, atEnd := .throws "Unexpected EOF while reading S2 bytes 0-3" },
    { size := 4, atEnd := .throws "Unexpected EOF while reading S2 bytes 4-7" },
    { size := HANDSHAKE_SIZE - 8, atEnd := .leaves, tested := some "remainder of S2" }]

/-- The method ends.  It has taken `size` bytes if there are so many, and thrown an `IOException`
if there are not. -/
def EndsWell (s : Reading) (size : Nat) : Prop :=
  ∃ result, Runs turn s result ∧
    if size ≤ s.input.bytes.length then
      ∃ input, result = .ok input ∧ input.bytes = s.input.bytes.drop size
    else ∃ message, result = .error (.io message)

/-! ## The loops -/

/-- The bytes that are still to be read. -/
def need (parts : List Part) : Nat := (parts.map fun part => part.size - part.totalBytesRead).sum

/-- The loop goes on at the end of the stream, or is left there without a test. -/
def Part.Misses (part : Part) : Prop :=
  part.atEnd = .goesOn ∨ part.atEnd = .leaves ∧ part.tested = none

variable {part : Part} {parts : List Part} {input : InputStream}

theorem Part.test_size (part : Part) : part.test part.size = .ok () := by
  unfold test
  split
  · rw [if_neg (by simp)]
    rfl
  · rfl

/-- A turn before the end of the stream takes some of the bytes. -/
theorem turn_of_ne_nil (hne : input.bytes ≠ []) :
    ∃ parts' input' n, turn ⟨part :: parts, input⟩ = .ok (.inr ⟨parts', input'⟩) ∧
      (parts' = parts ∨ ∃ part', parts' = part' :: parts ∧ part'.atEnd = part.atEnd ∧
        part'.tested = part.tested) ∧
      0 < n ∧ n ≤ input.bytes.length ∧ need (part :: parts) = need parts' + n ∧
      input'.bytes = input.bytes.drop n := by
  obtain ⟨bytes, segments⟩ := input
  have hwant : 0 < part.size - part.totalBytesRead := Nat.sub_pos_of_lt part.lt
  have hrun := run_readSome_of_ne_nil hwant hne segments
  have hpos := segments.most_pos hwant
  have hle := segments.most_le (part.size - part.totalBytesRead)
  have hlength : 0 < bytes.length := List.length_pos_of_ne_nil hne
  generalize segments.most (part.size - part.totalBytesRead) = most at hrun hpos hle
  have htaken : (bytes.take most).length = min most bytes.length := List.length_take
  have hdrop : bytes.drop most = bytes.drop (min most bytes.length) := List.drop_eq_drop_min
  by_cases hlt : part.totalBytesRead + min most bytes.length < part.size
  · refine ⟨{ part with totalBytesRead := _, lt := hlt } :: parts, ⟨bytes.drop most, segments.tail⟩,
      min most bytes.length, ?_, .inr ⟨_, rfl, rfl, rfl⟩, by omega, Nat.min_le_right _ _, ?_, hdrop⟩
    · simp only [turn, hrun, htaken, dif_pos hlt]
      rfl
    · simp only [need, List.map_cons, List.sum_cons]
      omega
  · have hfull : part.totalBytesRead + min most bytes.length = part.size := by omega
    refine ⟨parts, ⟨bytes.drop most, segments.tail⟩, min most bytes.length, ?_, .inl rfl, by omega,
      Nat.min_le_right _ _, ?_, hdrop⟩
    · simp only [turn, hrun, htaken, hfull, part.test_size, lt_irrefl, dif_neg, not_false_eq_true]
      rfl
    · simp only [need, List.map_cons, List.sum_cons]
      omega

theorem run_readSome_of_nil (part : Part) (segments : Segments) :
    (readSome (part.size - part.totalBytesRead)).run ⟨[], segments⟩ = .ok none ⟨[], segments⟩ := by
  rw [readSome, run_get_bind, if_neg fun h => (Nat.sub_pos_of_lt part.lt).ne' h.1]
  rfl

/-- A turn at the end of the stream throws. -/
theorem turn_of_nil (hends : ¬ part.Misses) (segments : Segments) :
    ∃ message, turn ⟨part :: parts, [], segments⟩ = .error (.io message) := by
  simp only [turn, run_readSome_of_nil]
  cases hend : part.atEnd with
  | goesOn => exact absurd (.inl hend) hends
  | throws message => exact ⟨message, rfl⟩
  | leaves =>
    cases htested : part.tested with
    | none => exact absurd (.inr ⟨hend, htested⟩) hends
    | some name =>
      simp only [Part.test, htested, if_pos part.lt.ne]
      exact ⟨_, rfl⟩

/-- The method ends if the stream is long enough or no loop misses its end. -/
theorem endsWell_of_ends (hends : need parts ≤ input.bytes.length ∨ ∀ part ∈ parts, ¬ part.Misses) :
    EndsWell ⟨parts, input⟩ (need parts) := by
  induction hn : input.bytes.length using Nat.strongRecOn generalizing parts input with
  | ind n ih =>
    cases parts with
    | nil => exact ⟨.ok input, .leaves rfl, by simp [need]⟩
    | cons part parts =>
      by_cases hnil : input.bytes = []
      · obtain ⟨bytes, segments⟩ := input
        cases hnil
        have hpos : ¬ need (part :: parts) ≤ ([] : List UInt8).length := by
          have hlt := part.lt
          simp only [need, List.map_cons, List.sum_cons, List.length_nil]
          omega
        obtain ⟨message, hturn⟩ := @turn_of_nil part parts
          (hends.resolve_left hpos part List.mem_cons_self) segments
        refine ⟨_, .throws hturn, ?_⟩
        rw [if_neg hpos]
        exact ⟨message, rfl⟩
      · obtain ⟨parts', input', k, hturn, hparts, hpos, hle, hneed, hinput⟩ :=
          @turn_of_ne_nil part parts input hnil
        have hlength : input'.bytes.length = input.bytes.length - k := by
          rw [hinput, List.length_drop]
        have hends' : need parts' ≤ input'.bytes.length ∨ ∀ part ∈ parts', ¬ part.Misses := by
          refine hends.imp (fun _ => by omega) fun hends => ?_
          obtain ⟨hends, hmore⟩ := List.forall_mem_cons.mp hends
          rcases hparts with rfl | ⟨part', rfl, hend, htested⟩
          · exact hmore
          · refine List.forall_mem_cons.mpr ⟨?_, hmore⟩
            rwa [Part.Misses, hend, htested]
        obtain ⟨result, hruns, hresult⟩ := ih _ (by omega) hends' rfl
        refine ⟨result, .next hturn hruns, ?_⟩
        have hiff : need parts' ≤ input'.bytes.length ↔
            need (part :: parts) ≤ input.bytes.length := by omega
        have hdrop : input'.bytes.drop (need parts') = input.bytes.drop (need (part :: parts)) := by
          rw [hinput, List.drop_drop, hneed, Nat.add_comm]
        simp only [hiff, hdrop] at hresult
        exact hresult

/-- The loop of `readS1` goes on for ever if the stream is too short. -/
theorem not_runs_readS1 (hshort : input.bytes.length < HANDSHAKE_SIZE)
    (result : Except JavaException InputStream) : ¬ Runs turn ⟨readS1, input⟩ result := by
  apply @not_runs_of_invariant _ _ _ turn fun s =>
    ∃ part, s.parts = [part] ∧ part.atEnd = .goesOn ∧ s.input.bytes.length < need s.parts
  · rintro ⟨_, bytes, segments⟩ ⟨part, rfl, hend, hshort⟩
    by_cases hnil : bytes = []
    · cases hnil
      refine ⟨⟨[part], [], segments⟩, ?_, part, rfl, hend, hshort⟩
      simp only [turn, run_readSome_of_nil, hend]
      rfl
    · obtain ⟨parts', input', n, hturn, hparts, -, hle, hneed, hinput⟩ :=
        @turn_of_ne_nil part [] ⟨bytes, segments⟩ hnil
      have hlength := congrArg List.length hinput
      rw [List.length_drop] at hlength
      dsimp only at hshort hle hlength
      have hshort' : input'.bytes.length < need parts' := by omega
      rcases hparts with rfl | ⟨part', rfl, hend', -⟩
      · exact absurd hshort' (Nat.not_lt_zero _)
      · exact ⟨_, hturn, part', rfl, hend'.trans hend, hshort'⟩
  · exact ⟨_, rfl, rfl, hshort⟩

/-- The reads of the handshake end.  Each takes 1536 bytes or throws an `IOException`, `readS2` on
every stream, and `readS1` if and only if the stream has so many bytes. -/
theorem handshake_iff (input : InputStream) :
    (EndsWell ⟨readS1, input⟩ HANDSHAKE_SIZE ↔ HANDSHAKE_SIZE ≤ input.bytes.length) ∧
      EndsWell ⟨readS2, input⟩ HANDSHAKE_SIZE := by
  refine ⟨⟨?_, fun hle => endsWell_of_ends (.inl hle)⟩, endsWell_of_ends (.inr ?_)⟩
  · rintro ⟨result, hruns, -⟩
    by_contra hshort
    exact not_runs_readS1 (Nat.not_le.mp hshort) result hruns
  · simp [readS2, Part.Misses]

/-- A server that closes the connection before S1. -/
theorem not_endsWell_readS1 : ¬ EndsWell ⟨readS1, [], .network []⟩ HANDSHAKE_SIZE := by
  rintro ⟨result, hruns, -⟩
  exact not_runs_readS1 (by decide) result hruns

end MediasoupDemo.Rtmp.Handshake
