/-
  HistoryAudit.Session.Lemmas

  What a read leaves behind. Reading never turns back the clock and never adds
  to the weight of the device; bytes are paid for by weight, and a read without
  bytes has waited until its deadline.
-/
import HistoryAudit.Session.Basic

namespace HistoryAudit

namespace Session

theorem gather_clock (deadline : Nat) (got : List UInt8) (d : Device) (s : Surroundings) :
    s.clock ≤ (gather deadline got d s).2.2.clock := by
  fun_induction gather deadline got d s with
  | case1 got d s bytes d' s' h ih | case2 got d s d' s' h ih =>
    rw [Device.clock_of_read h] at ih
    exact ih
  | case3 got d s d' s' h | case4 got d s d' s' h | case5 got d s e d' s' h
    | case6 got d s d' s' h hw =>
    -- The call ends the gathering.
    exact Nat.le_of_eq (Device.clock_of_read h).symm
  | case7 got d s d' s' h hw ih =>
    have hpause : (s'.pause idlePause).clock = s.clock + idlePause :=
      congrArg (· + idlePause) (Device.clock_of_read h)
    rw [hpause] at ih
    exact Nat.le_trans (Nat.le_add_right _ _) ih

theorem gather_weight_le (deadline : Nat) (got : List UInt8) (d : Device) (s : Surroundings) :
    (gather deadline got d s).2.1.weight ≤ d.weight := by
  fun_induction gather deadline got d s with
  | case1 got d s bytes d' s' h ih | case2 got d s d' s' h ih | case7 got d s d' s' h hw ih =>
    have hread := (d.read_weight s).1
    rw [h] at hread
    exact Nat.le_trans ih hread
  | case3 got d s d' s' h | case4 got d s d' s' h | case5 got d s e d' s' h
    | case6 got d s d' s' h hw =>
    have hread := (d.read_weight s).1
    rwa [h] at hread

/-- A read that ends with other bytes than it began with has taken from the weight. -/
theorem gather_weight_lt (deadline : Nat) (got : List UInt8) (d : Device) (s : Surroundings)
    {bytes : List UInt8} {finished : Bool}
    (hr : (gather deadline got d s).1 = .ok (bytes, finished)) (hb : bytes ≠ got) :
    (gather deadline got d s).2.1.weight < d.weight := by
  -- The bytes grow only by a call that took something from the weight.
  fun_induction gather deadline got d s with
  | case1 got d s more d' s' h ih =>
    have hw := (d.read_weight s).2
    have hle := gather_weight_le deadline (got ++ more) d' s'
    simp only [h, Device.Read.more, forall_const] at hw
    omega
  | case2 got d s d' s' h ih =>
    have hw := (d.read_weight s).2
    have hle := gather_weight_le deadline got d' s'
    simp only [h, Device.Read.more, forall_const] at hw
    omega
  | case3 | case4 | case6 => simp_all
  | case5 => simp at hr
  | case7 got d s d' s' h hw ih =>
    have hle := (d.read_weight s).1
    have hlt := ih hr hb
    simp only [h] at hle
    omega

/-- A read that brings nothing, from a device that is open, ends no earlier than its deadline. -/
theorem gather_idle (deadline : Nat) (d : Device) (s : Surroundings)
    (hr : (gather deadline [] d s).1 = .ok ([], false)) :
    deadline ≤ (gather deadline [] d s).2.2.clock := by
  suffices ∀ got, (gather deadline got d s).1 = .ok ([], false) →
      deadline ≤ (gather deadline got d s).2.2.clock from this [] hr
  clear hr
  intro got hr
  fun_induction gather deadline got d s with
  | case1 got d s more d' s' h ih => exact ih hr
  | case2 got d s d' s' h ih => exact ih hr
  | case3 | case4 | case5 => simp at hr
  | case6 got d s d' s' h hw => simp_all
  | case7 got d s d' s' h hw ih => exact ih hr

/-- What a read does to the clock and to the weight of the device. -/
theorem read_clock (s : Session) (timeout : Nat) :
    s.around.clock ≤ (s.read timeout).2.around.clock := by
  have := gather_clock (s.around.clock + timeout) [] s.device s.around
  unfold read
  split <;> simp_all
  split <;> simp_all

theorem read_weight_le (s : Session) (timeout : Nat) :
    (s.read timeout).2.device.weight ≤ s.device.weight := by
  have := gather_weight_le (s.around.clock + timeout) [] s.device s.around
  unfold read
  split <;> simp_all
  split <;> simp_all

theorem read_weight_lt (s : Session) (timeout : Nat) {bytes : List UInt8}
    (h : (s.read timeout).1 = .ok (.data bytes)) :
    (s.read timeout).2.device.weight < s.device.weight := by
  -- Bytes were returned, so the gathering began with fewer.
  have hlt : ∀ b f, (gather (s.around.clock + timeout) [] s.device s.around).1 = .ok (b, f) →
      b ≠ [] →
      (gather (s.around.clock + timeout) [] s.device s.around).2.1.weight < s.device.weight :=
    fun _ _ hr hb => gather_weight_lt _ _ _ _ hr hb
  revert h
  unfold read
  split
  · simp
  · rename_i b f device around heq
    split
    · cases f <;> simp
    · rename_i hne
      intro _
      have := hlt b f (by rw [heq]) (by simpa using hne)
      simpa [heq] using this

theorem read_idle (s : Session) (timeout : Nat) (h : (s.read timeout).1 = .ok .idle) :
    s.around.clock + timeout ≤ (s.read timeout).2.around.clock := by
  have hi := gather_idle (s.around.clock + timeout) s.device s.around
  revert h
  unfold read
  split
  · simp
  · rename_i b f device around heq
    split
    · rename_i hb
      have hb : b = [] := List.isEmpty_iff.1 hb
      subst hb
      cases f with
      | true => simp
      | false =>
        -- Nothing was gathered, so the gathering went on to the deadline.
        intro _
        simpa [heq] using hi (by rw [heq])
    · simp

end Session

end HistoryAudit
