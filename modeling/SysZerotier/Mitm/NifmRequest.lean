import SysZerotier.Mitm.DummySession
import SysZerotier.Mitm.Profiles

/-! Network requests (`NifmRequestShim` in `source/mitm/nifm_shim.cpp`).

Behind each request of a game is a genuine one, to which most commands are forwarded.
For one title the shim answers the commands of a request's life itself: its state is
available once the title has asked for LAN mode and the virtual network has an address,
and the two events it hands out are of its own making and are never signalled. For the
others it only holds back the answer that the request is available, once after each
submission, while the transport is down.

A call comes with a `World`: what the genuine request, the kernel and the port answer
while it runs. -/
namespace SysZerotier.Mitm.NifmRequest
open Net Port

abbrev Handle := U32

/-- The commands that are forwarded whatever the title. -/
inductive Forwarded where
  | setRequirement
  | setNetworkProfileId
  | setPersistent
  | getRequirement
  | getAppletInfo
  | setKeptInSleep
  | registerSocketDescriptor
  | unregisterSocketDescriptor
  | getNetworkAccessStatus
  deriving DecidableEq

def Forwarded.id : Forwarded → Nat
  | .setRequirement => 5
  | .setNetworkProfileId => 9
  | .setPersistent => 12
  | .getRequirement => 19
  | .getAppletInfo => 21
  | .setKeptInSleep => 23
  | .registerSocketDescriptor => 24
  | .unregisterSocketDescriptor => 25
  | .getNetworkAccessStatus => 26

inductive Call where
  | getRequestState
  | getResult
  | getEvents
  | cancel
  | submit
  | setConnectionConfirmationOption (option : U8)
  | forwarded (c : Forwarded)
  deriving DecidableEq

/-- The command ids. -/
def Call.id : Call → Nat
  | .getRequestState => 0
  | .getResult => 1
  | .getEvents => 2
  | .cancel => 3
  | .submit => 4
  | .setConnectionConfirmationOption _ => 11
  | .forwarded c => c.id

structure World where
  /-- The genuine request's result for a command, and what it stores. -/
  result : Nat → U32
  state : U32
  handles : Handle × Handle
  /-- `g_port`. -/
  port : Option VNet
  transportReady : Bool
  /-- `CreateSystemEvent` for the first event and for the second. -/
  createState : Except U32 Handle
  createResult : Except U32 Handle

inductive Effect where
  | forward (id : Nat)
  /-- `WaitForLanTransportReady(10'000)` -/
  | wait
  | create (h : Handle)
  | destroy (h : Handle)
  deriving DecidableEq

structure Answer where
  rc : U32
  state : Option U32 := none
  handles : Option (Handle × Handle) := none
  deriving DecidableEq

structure Request where
  programId : U64
  readinessBarrierComplete : Bool := false
  connectionConfirmationOption : U8 := 0
  ryujinxShoalWaitComplete : Bool := false
  /-- The two events, once `m_ryujinx_events_initialized`. -/
  ryujinxEvents : Option (Handle × Handle) := none

def usesRyujinxNifmRequestModel (id : U64) : Bool := id == Splatoon3ProgramId

def stateError : U32 := 1

def stateAvailable : U32 := 3

namespace Request

def ryujinxInternetEnabled (r : Request) (port : Option VNet) (lanRequested : Bool) : Bool :=
  usesRyujinxNifmRequestModel r.programId && lanRequested && (Profiles.getIp port).isSome

/-- A command whose answer is the genuine request's. -/
def forward (r : Request) (w : World) (id : Nat) : Request × Answer × List Effect :=
  (r, { rc := w.result id }, [.forward id])

def getRequestState (r : Request) (w : World) : Request × Answer × List Effect :=
  if usesRyujinxNifmRequestModel r.programId then
    let lanRequested := r.connectionConfirmationOption == 1
    let enabled := r.ryujinxInternetEnabled w.port lanRequested
    let r :=
      if lanRequested && !r.ryujinxShoalWaitComplete && w.port.isSome then { r with ryujinxShoalWaitComplete := true }
      else r
    (r, { rc := 0, state := some (if enabled then stateAvailable else stateError) }, [])
  else if w.result 0 ≠ 0 then r.forward w 0
  else
    let held := w.state == stateAvailable && !r.readinessBarrierComplete && (findLanTitle r.programId).isSome &&
      w.port.isSome
    (if held then { r with readinessBarrierComplete := true } else r, { rc := 0, state := some w.state },
      if held && !w.transportReady then [.forward 0, .wait] else [.forward 0])

def getResult (r : Request) (w : World) : Request × Answer × List Effect :=
  if usesRyujinxNifmRequestModel r.programId then (r, { rc := 0 }, []) else r.forward w 1

def getEvents (r : Request) (w : World) : Request × Answer × List Effect :=
  if usesRyujinxNifmRequestModel r.programId then
    match r.ryujinxEvents with
    | some events => (r, { rc := 0, handles := some events }, [])
    | none =>
      match w.createState with
      | .error rc => (r, { rc := rc }, [])
      | .ok first =>
        match w.createResult with
        | .error rc => (r, { rc := rc }, [.create first, .destroy first])
        | .ok second =>
          ({ r with ryujinxEvents := some (first, second) }, { rc := 0, handles := some (first, second) },
            [.create first, .create second])
  else if w.result 2 ≠ 0 then r.forward w 2
  else (r, { rc := 0, handles := some w.handles }, [.forward 2])

def cancel (r : Request) (w : World) : Request × Answer × List Effect :=
  let r := { r with readinessBarrierComplete := false, ryujinxShoalWaitComplete := false }
  if usesRyujinxNifmRequestModel r.programId then (r, { rc := 0 }, []) else r.forward w 3

def submit (r : Request) (w : World) : Request × Answer × List Effect :=
  let r := { r with readinessBarrierComplete := false, ryujinxShoalWaitComplete := false }
  if usesRyujinxNifmRequestModel r.programId then (r, { rc := 0 }, []) else r.forward w 4

def setConnectionConfirmationOption (r : Request) (w : World) (option : U8) : Request × Answer × List Effect :=
  if usesRyujinxNifmRequestModel r.programId then
    ({ r with
        connectionConfirmationOption := option
        ryujinxShoalWaitComplete := if option = 1 then false else r.ryujinxShoalWaitComplete }, { rc := 0 }, [])
  else r.forward w 11

def exec (r : Request) (w : World) : Call → Request × Answer × List Effect
  | .getRequestState => r.getRequestState w
  | .getResult => r.getResult w
  | .getEvents => r.getEvents w
  | .cancel => r.cancel w
  | .submit => r.submit w
  | .setConnectionConfirmationOption option => r.setConnectionConfirmationOption w option
  | .forwarded c => r.forward w c.id

/-- The request after some calls, and what each answered and did. -/
def execAll (r : Request) : List (Call × World) → Request × List (Answer × List Effect)
  | [] => (r, [])
  | c :: cs => (((r.exec c.2 c.1).1.execAll cs).1, (r.exec c.2 c.1).2 :: ((r.exec c.2 c.1).1.execAll cs).2)

/-! ### The title the shim answers itself -/

/-- The option that was confirmed last. -/
def confirmed (last : U8) : List (Call × World) → U8
  | [] => last
  | (.setConnectionConfirmationOption option, _) :: cs => confirmed option cs
  | _ :: cs => confirmed last cs

/-- The events the request has. -/
def events (r : Request) : List Handle := r.ryujinxEvents.elim [] fun e => [e.1, e.2]

/-- What one call does to a request of that title. -/
structure Isolated (r : Request) (c : Call) (out : Request × Answer × List Effect) : Prop where
  programId : out.1.programId = r.programId
  option : ∀ w, out.1.connectionConfirmationOption = confirmed r.connectionConfirmationOption [(c, w)]
  forwards : ∀ id, .forward id ∈ out.2.2 → ∃ f : Forwarded, id = f.id
  waits : .wait ∉ out.2.2
  handles : ∀ e, out.2.1.handles = some e → out.1.ryujinxEvents = some e
  keeps : ∀ e, r.ryujinxEvents = some e → out.1.ryujinxEvents = some e
  balance : ∀ h, out.2.2.count (.create h) + r.events.count h = out.2.2.count (.destroy h) + out.1.events.count h

/-- A call that does nothing outside the request and leaves its events. -/
theorem Isolated.still {r t : Request} {c : Call} {a : Answer} (hp : t.programId = r.programId)
    (ho : ∀ w, t.connectionConfirmationOption = confirmed r.connectionConfirmationOption [(c, w)])
    (he : t.ryujinxEvents = r.ryujinxEvents) (ha : a.handles = none ∨ a.handles = r.ryujinxEvents) :
    Isolated r c (t, a, []) where
  programId := hp
  option := ho
  forwards _ h := by cases h
  waits h := by cases h
  handles e h := by
    rcases ha with hnone | hsame
    · rw [hnone] at h
      cases h
    · rw [he, ← hsame, h]
  keeps e h := by rw [he, h]
  balance handle := by rw [events, events, he]; rfl

theorem exec_isolated {r : Request} (h : usesRyujinxNifmRequestModel r.programId = true) (w : World) (c : Call) :
    Isolated r c (r.exec w c) := by
  cases c with
  | getRequestState =>
    rw [exec, getRequestState, if_pos h]
    dsimp only
    split <;> exact .still rfl (fun _ => rfl) rfl (.inl rfl)
  | getResult =>
    rw [exec, getResult, if_pos h]
    exact .still rfl (fun _ => rfl) rfl (.inl rfl)
  | getEvents =>
    rw [exec, getEvents, if_pos h]
    cases hevents : r.ryujinxEvents with
    | some e => exact .still rfl (fun _ => rfl) rfl (.inr hevents.symm)
    | none =>
      dsimp only
      cases w.createState with
      | error rc => exact .still rfl (fun _ => rfl) rfl (.inl rfl)
      | ok first =>
        cases w.createResult with
        | error rc =>
          refine ⟨rfl, fun _ => rfl, fun _ hf => ?_, by simp, fun _ he => ?_, fun _ he => he, fun handle => ?_⟩
          · simp at hf
          · cases he
          · by_cases heq : first = handle <;> simp [heq]
        | ok second =>
          refine ⟨rfl, fun _ => rfl, fun _ hf => ?_, by simp, fun _ he => he, fun _ he => ?_, fun handle => ?_⟩
          · simp at hf
          · rw [hevents] at he
            cases he
          · simp only [events, hevents]
            by_cases hf : first = handle <;> by_cases hs : second = handle <;> simp [hf, hs]
  | cancel =>
    rw [exec, cancel, if_pos h]
    exact .still rfl (fun _ => rfl) rfl (.inl rfl)
  | submit =>
    rw [exec, submit, if_pos h]
    exact .still rfl (fun _ => rfl) rfl (.inl rfl)
  | setConnectionConfirmationOption option =>
    rw [exec, setConnectionConfirmationOption, if_pos h]
    exact .still rfl (fun _ => rfl) rfl (.inl rfl)
  | forwarded f =>
    refine ⟨rfl, fun _ => rfl, fun id hf => ⟨f, ?_⟩, by simp [exec, forward], fun _ he => ?_, fun _ he => he,
      fun _ => by simp [exec, forward]⟩
    · simpa [exec, forward] using hf
    · cases he

/-- What calls of a run did, one after the other. -/
def effects (outs : List (Answer × List Effect)) : List Effect := outs.flatMap Prod.snd

theorem confirmed_cons (last : U8) (c : Call × World) (cs : List (Call × World)) :
    confirmed last (c :: cs) = confirmed (confirmed last [c]) cs := by
  obtain ⟨c, w⟩ := c
  cases c <;> rfl

theorem execAll_isolated (cs : List (Call × World)) {r : Request}
    (h : usesRyujinxNifmRequestModel r.programId = true) :
    (r.execAll cs).1.programId = r.programId ∧
      (r.execAll cs).1.connectionConfirmationOption = confirmed r.connectionConfirmationOption cs ∧
      (∀ out ∈ (r.execAll cs).2, (∀ id, .forward id ∈ out.2 → ∃ f : Forwarded, id = f.id) ∧ .wait ∉ out.2 ∧
        ∀ e, out.1.handles = some e → (r.execAll cs).1.ryujinxEvents = some e) ∧
      (∀ e, r.ryujinxEvents = some e → (r.execAll cs).1.ryujinxEvents = some e) ∧
      ∀ handle, (effects (r.execAll cs).2).count (.create handle) + r.events.count handle =
        (effects (r.execAll cs).2).count (.destroy handle) + (r.execAll cs).1.events.count handle := by
  induction cs generalizing r with
  | nil => exact ⟨rfl, rfl, (fun _ ho => by cases ho), fun _ he => he, fun _ => rfl⟩
  | cons c cs ih =>
    have hfirst := exec_isolated h c.2 c.1
    obtain ⟨hid, hoption, houts, hkeeps, hbalance⟩ := ih (by rw [hfirst.programId]; exact h)
    refine ⟨hid.trans hfirst.programId, ?_, fun out ho => ?_, fun e he => hkeeps e (hfirst.keeps e he), fun handle => ?_⟩
    · rw [confirmed_cons, ← hfirst.option c.2]
      exact hoption
    · rcases List.mem_cons.mp ho with rfl | ho
      · exact ⟨hfirst.forwards, hfirst.waits, fun e he => hkeeps e (hfirst.handles e he)⟩
      · exact houts out ho
    · have hnow := hfirst.balance handle
      have hlater := hbalance handle
      simp only [effects, execAll, List.flatMap_cons, List.count_append] at hlater ⊢
      omega

/-- **A request of the title that the shim answers itself.** Whatever its calls and
whatever happens around them, none of its life reaches the genuine request and nothing is
held back; every answer with events names the same two, and these are all the events
there are; and it is available just when LAN mode was confirmed last and the virtual
network has an address. -/
theorem ryujinx_isolated (cs : List (Call × World)) :
    let run := execAll { programId := Splatoon3ProgramId } cs
    (∀ out ∈ run.2, (∀ id, .forward id ∈ out.2 → ∃ f : Forwarded, id = f.id) ∧ .wait ∉ out.2 ∧
      ∀ e, out.1.handles = some e → run.1.ryujinxEvents = some e) ∧
    (∀ handle, (effects run.2).count (.create handle) =
      (effects run.2).count (.destroy handle) + run.1.events.count handle) ∧
    ∀ w, (run.1.getRequestState w).2.1 =
      ⟨0, some (if confirmed 0 cs = 1 ∧ (Profiles.getIp w.port).isSome then stateAvailable else stateError), none⟩ := by
  intro run
  have hmodel : usesRyujinxNifmRequestModel Splatoon3ProgramId = true := by decide
  obtain ⟨hid, hoption, houts, -, hbalance⟩ :=
    execAll_isolated cs (r := { programId := Splatoon3ProgramId }) hmodel
  refine ⟨houts, fun handle => ?_, fun w => ?_⟩
  · have hnow := hbalance handle
    rw [show (events { programId := Splatoon3ProgramId }).count handle = 0 from rfl, Nat.add_zero] at hnow
    exact hnow
  · have hours : usesRyujinxNifmRequestModel run.1.programId = true := by rw [hid]; exact hmodel
    have hlast : run.1.connectionConfirmationOption = confirmed 0 cs := hoption
    rw [getRequestState, if_pos hours]
    dsimp only
    rw [ryujinxInternetEnabled, hours, hlast, Bool.true_and]
    simp

/-! ### The other titles -/

/-- What the genuine request answers a call. -/
def genuine (c : Call) (w : World) : Answer :=
  match c with
  | .getRequestState => { rc := w.result 0, state := if w.result 0 = 0 then some w.state else none }
  | .getEvents => { rc := w.result 2, handles := if w.result 2 = 0 then some w.handles else none }
  | c => { rc := w.result c.id }

/-- The calls after which an answer may be held back once more. -/
def renews (c : Call × World) : Bool := c.1 == .submit || c.1 == .cancel

/-- How often the shim may still wait before the next submission. -/
def credit (r : Request) : Nat := if r.readinessBarrierComplete then 0 else 1

theorem exec_transparent {r : Request} (h : usesRyujinxNifmRequestModel r.programId = false) (c : Call × World) :
    (r.exec c.2 c.1).1.programId = r.programId ∧ (r.exec c.2 c.1).2.1 = genuine c.1 c.2 ∧
      ((r.exec c.2 c.1).2.2 = [.forward c.1.id] ∨ (r.exec c.2 c.1).2.2 = [.forward c.1.id, .wait] ∧
        c.1 = .getRequestState ∧ c.2.result 0 = 0 ∧ c.2.state = stateAvailable ∧ c.2.transportReady = false) ∧
      (r.exec c.2 c.1).2.2.count .wait + (r.exec c.2 c.1).1.credit ≤ r.credit + if renews c then 1 else 0 := by
  obtain ⟨c, w⟩ := c
  have hother : ¬usesRyujinxNifmRequestModel r.programId = true := by simp [h]
  cases c with
  | getRequestState =>
    rw [exec, getRequestState, if_neg hother, genuine]
    by_cases hrc : w.result 0 = 0
    · rw [if_neg (not_not.mpr hrc)]
      dsimp only
      cases hheld : w.state == stateAvailable && !r.readinessBarrierComplete && (findLanTitle r.programId).isSome &&
        w.port.isSome with
      | false => exact ⟨rfl, by simp [hrc], .inl rfl, by simp [renews]⟩
      | true =>
        simp only [Bool.and_eq_true, beq_iff_eq, Bool.not_eq_true'] at hheld
        have hcredit : r.credit = 1 := by rw [credit, hheld.1.1.2, if_neg (by simp)]
        rw [hcredit]
        cases hready : w.transportReady with
        | true => exact ⟨rfl, by simp [hrc], .inl rfl, by simp [credit]⟩
        | false => exact ⟨rfl, by simp [hrc], .inr ⟨rfl, rfl, hrc, hheld.1.1.1, rfl⟩, by simp [credit, renews]⟩
    · rw [if_pos hrc]
      exact ⟨rfl, by rw [if_neg hrc]; rfl, .inl rfl, by simp [forward, renews]⟩
  | getEvents =>
    rw [exec, getEvents, if_neg hother, genuine]
    by_cases hrc : w.result 2 = 0
    · rw [if_neg (not_not.mpr hrc)]
      exact ⟨rfl, by simp [hrc], .inl rfl, by simp [renews]⟩
    · rw [if_pos hrc]
      exact ⟨rfl, by rw [if_neg hrc]; rfl, .inl rfl, by simp [forward, renews]⟩
  | getResult =>
    rw [exec, getResult, if_neg hother]
    exact ⟨rfl, rfl, .inl rfl, by simp [forward, renews]⟩
  | cancel =>
    rw [exec, cancel, if_neg hother]
    exact ⟨rfl, rfl, .inl rfl, by simp [forward, credit, renews]⟩
  | submit =>
    rw [exec, submit, if_neg hother]
    exact ⟨rfl, rfl, .inl rfl, by simp [forward, credit, renews]⟩
  | setConnectionConfirmationOption option =>
    rw [exec, setConnectionConfirmationOption, if_neg hother]
    exact ⟨rfl, rfl, .inl rfl, by simp [forward, renews]⟩
  | forwarded f => exact ⟨rfl, rfl, .inl rfl, by simp [exec, forward, renews]⟩

/-- The genuine request is available and the transport is down. -/
def downAvailable : World where
  result _ := 0
  state := stateAvailable
  handles := (1, 2)
  port := some VNet.fresh
  transportReady := false
  createState := .error 1
  createResult := .error 1

end Request

end SysZerotier.Mitm.NifmRequest
