import Mathlib.Tactic.SplitIfs

set_option autoImplicit false

/-!
# A notifier with one waiter

`notifyOne` wakes the waiter, or leaves one permit for the next one. A waiter that is dropped after
it was woken passes the permit on.
-/

inductive Waiter where
  | absent
  | waiting
  | notified
  deriving DecidableEq

structure Notify where
  permit : Bool
  waiter : Waiter
  deriving DecidableEq

namespace Notify

def new : Notify := ⟨false, .absent⟩

def notifyOne (notify : Notify) : Notify :=
  match notify.waiter with
  | .waiting => { notify with waiter := .notified }
  | _ => { notify with permit := true }

/-- A poll of the waiter, and whether it is done. The first poll takes a permit or registers. -/
def poll (notify : Notify) : Notify × Bool :=
  match notify.waiter with
  | .absent => if notify.permit then (⟨false, .absent⟩, true) else (⟨false, .waiting⟩, false)
  | .waiting => (notify, false)
  | .notified => ({ notify with waiter := .absent }, true)

def drop (notify : Notify) : Notify :=
  match notify.waiter with
  | .absent => notify
  | .waiting => { notify with waiter := .absent }
  | .notified => ⟨true, .absent⟩

/-- A poll would be done at once. -/
def Signalled (notify : Notify) : Prop := notify.permit = true ∨ notify.waiter = .notified

/-- No permit is stored beside a waiter that has not been woken. -/
def Sound (notify : Notify) : Prop := notify.waiter = .waiting → notify.permit = false

variable {notify : Notify}

theorem notifyOne_signalled (notify : Notify) : notify.notifyOne.Signalled := by
  unfold notifyOne
  split
  · exact .inr rfl
  · exact .inl rfl

theorem notifyOne_sound : notify.notifyOne.Sound := by
  unfold notifyOne
  split
  next => exact fun waiting => nomatch waiting
  next other => exact fun waiting => absurd waiting other

theorem notifyOne_absent (absent : notify.waiter = .absent) :
    notify.notifyOne.waiter = .absent := by
  simp only [notifyOne, absent]

theorem poll_pending (pending : notify.poll.2 = false) (sound : notify.Sound) :
    ¬ notify.Signalled ∧ notify.poll.1.Sound := by
  unfold poll at pending ⊢
  split
  next absent =>
    simp only [absent] at pending
    split_ifs at pending ⊢ with stored
    refine ⟨?_, fun _ => rfl⟩
    rintro (permit | woken)
    · exact stored permit
    · exact absurd (absent.symm.trans woken) (by decide)
  next waiting =>
    refine ⟨?_, sound⟩
    rintro (permit | woken)
    · exact absurd ((sound waiting).symm.trans permit) (by decide)
    · exact absurd (waiting.symm.trans woken) (by decide)
  next notified => simp only [notified] at pending; cases pending

theorem poll_done (done : notify.poll.2 = true) : notify.poll.1.waiter = .absent := by
  unfold poll at done ⊢
  split
  next absent =>
    simp only [absent] at done
    split_ifs at done ⊢
    rfl
  next waiting => simp only [waiting] at done; cases done
  next => rfl

theorem drop_absent (notify : Notify) : notify.drop.waiter = .absent := by
  unfold drop
  split
  next absent => exact absent
  next => rfl
  next => rfl

theorem sound_of_absent (absent : notify.waiter = .absent) : notify.Sound :=
  fun waiting => absurd (absent.symm.trans waiting) (by decide)

end Notify
