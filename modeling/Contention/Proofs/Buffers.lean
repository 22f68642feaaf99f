import Mathlib.Algebra.Order.Group.Multiset
import Contention.Proofs.Talk

/-!
# Every buffer goes back

A host lends the texts of methods, classes and threads in buffers. The `Ledger` of a transcript
holds the buffers that answers lent and the buffers that were handed back, each of them as often as
it occurs. It is **sound** at a time if nothing was handed back that was not out, and at most three
buffers are out; it is **settled** if each buffer that was lent was handed back, and handed back
just once. `Ledger.custody` is the account of all this.

A dialogue is `Tidy` if from a settled ledger every path of it leads to a settled one, with a sound
ledger at any time in between. The answers on a path are arbitrary: any call may fail, and all
buffers may have different texts, so that none can stand in for another. `tidy_capture` and
`tidy_observe` are the facts behind the main statement, `buffers_go_back`, which also says what
this means for the counters of hosts that take buffers back and of hosts that do not.
-/

namespace Contention

open Dialogue

/-! ### The ledger -/

/-- The buffers that the answer to a call lends. -/
def Query.lent : (q : Query) → q.Answer → Multiset Buffer
  | .methodName _, .ok (name, signature) => {name, signature}
  | .classSignature _, .ok cls => {cls}
  | .threadInfo _, .ok name => {name}
  | _, _ => 0

/-- The buffers that a call hands back, whether they are taken or not. -/
def Query.returned : Query → Multiset Buffer
  | .deallocate b => {b}
  | _ => 0

/-- The buffers that were lent, and those that were handed back. -/
structure Ledger where
  lent : Multiset Buffer := 0
  returned : Multiset Buffer := 0

namespace Ledger

/-- The ledger after an action. -/
def enter (l : Ledger) : (a : Action) → a.Answer → Ledger
  | .call q, answer => ⟨l.lent + q.lent answer, l.returned + q.returned⟩
  | _, _ => l

/-- These buffers are out. -/
def Holds (l : Ledger) (held : List Buffer) : Prop := l.lent = l.returned + held

/-- What was lent was handed back, each buffer once. -/
def Settled (l : Ledger) : Prop := l.lent = l.returned

/-- Nothing was handed back that was not out, and at most three buffers are out. -/
structure Sound (l : Ledger) : Prop where
  returned_le : l.returned ≤ l.lent
  lent_le : l.lent.card ≤ l.returned.card + 3

/-- The account of buffers. -/
def custody : Account Action Action.Answer Ledger where
  enter := enter
  sound := Sound

/-- The ledger of a transcript. -/
def ofTranscript (lines : List ((a : Action) × a.Answer)) : Ledger := custody.enterAll {} lines

@[simp]
theorem holds_nil {l : Ledger} : l.Holds [] ↔ l.Settled := by simp [Holds, Settled]

theorem Holds.sound {l : Ledger} {held : List Buffer} (h : l.Holds held) (hlen : held.length ≤ 3) :
    l.Sound where
  returned_le := h ▸ Multiset.le_add_right _ _
  lent_le := by
    rw [h, Multiset.card_add, Multiset.coe_card]
    exact Nat.add_le_add_left hlen _

theorem Settled.sound {l : Ledger} (h : l.Settled) : l.Sound := (holds_nil.mpr h).sound (by simp)

/-- A call that lends these buffers, and takes none back, adds them to those that are out. -/
private theorem Holds.lend {l : Ledger} {held : List Buffer} (h : l.Holds held) (q : Query)
    (answer : q.Answer) (lent : List Buffer) (hlent : q.lent answer = lent)
    (hreturned : q.returned = 0) : (l.enter (.call q) answer).Holds (lent ++ held) := by
  change l.lent + q.lent answer = l.returned + q.returned + ((lent ++ held : List Buffer) :)
  rw [hlent, hreturned, h, ← Multiset.coe_add, add_zero, add_assoc,
    add_comm (held : Multiset Buffer)]

/-- A buffer that is handed back is no longer out. -/
theorem Holds.deallocate {l : Ledger} {b : Buffer} {rest : List Buffer} (h : l.Holds (b :: rest))
    (answer : Except HostError Unit) :
    (l.enter (.call (.deallocate b)) answer).Holds rest := by
  change l.lent + 0 = l.returned + {b} + (rest : Multiset Buffer)
  rw [add_zero, add_assoc, Multiset.singleton_add, Multiset.cons_coe]
  exact h

end Ledger

/-! ### Tidy dialogues -/

namespace Talk

open Ledger

/-- From a settled ledger every path leads to a settled one. -/
def Tidy (d : Talk α) : Prop :=
  ∀ ⦃l : Ledger⦄, l.Settled → d.Meets custody (fun _ l => l.Settled) l

theorem Tidy.pure (a : α) : Tidy (Pure.pure a : Talk α) := fun _ hl => ⟨hl.sound, hl⟩

theorem Tidy.bind {d : Talk α} {f : α → Talk β} (hd : Tidy d) (hf : ∀ a, Tidy (f a)) :
    Tidy (d >>= f) :=
  fun _ hl => meets_bind (hd hl) fun a _ hl => hf a hl

/-- An action that leaves the ledger alone. -/
private theorem tidy_request {a : Action}
    (h : ∀ (l : Ledger) (answer : a.Answer), l.enter a answer = l) :
    Tidy (request a : Talk a.Answer) := by
  intro l hl
  refine ⟨hl.sound, fun answer => ?_⟩
  have hsame : custody.enter l a answer = l := h l answer
  rw [hsame]
  exact ⟨hl.sound, hl⟩

private theorem tidy_log (e : Log.Entry) : Tidy (log e) := tidy_request fun _ _ => rfl

private theorem tidy_bump (c : Counter) : Tidy (bump c) := tidy_request fun _ _ => rfl

private theorem tidy_bumpIf (condition : Bool) (c : Counter) : Tidy (bumpIf condition c) := by
  cases condition with
  | false => exact Tidy.pure ()
  | true => exact tidy_bump c

/-- A call that neither lends nor takes back. -/
private theorem tidy_call {q : Query} (hlent : ∀ answer, q.lent answer = 0)
    (hreturned : q.returned = 0) :
    Tidy (call q) :=
  tidy_request fun l (answer : q.Answer) => by
    change Ledger.mk (l.lent + q.lent answer) (l.returned + q.returned) = l
    rw [hlent, hreturned, add_zero, add_zero]

/-- Handing one buffer back. If the host refuses it, it was handed back all the same. -/
private theorem meets_release {l : Ledger} {b : Buffer} {rest : List Buffer}
    (h : l.Holds (b :: rest)) (hlen : (b :: rest).length ≤ 3) :
    (release b).Meets custody (fun _ l => l.Holds rest) l := by
  refine meets_request_bind.mpr ⟨h.sound hlen, fun answer => ?_⟩
  have hrest : (custody.enter l (.call (.deallocate b)) answer).Holds rest := h.deallocate answer
  have hsound := hrest.sound (Nat.le_of_succ_le hlen)
  rcases answer with e | ⟨⟩
  · exact ⟨hsound, fun _ => ⟨hsound, hrest⟩⟩
  · exact ⟨hsound, hrest⟩

/-- Handing back all that is out. -/
private theorem meets_releaseAll {l : Ledger} {held : List Buffer} (h : l.Holds held)
    (hlen : held.length ≤ 3) : (releaseAll held).Meets custody (fun _ l => l.Settled) l := by
  induction held generalizing l with
  | nil => exact ⟨h.sound hlen, holds_nil.mp h⟩
  | cons b rest ih =>
    exact meets_bind (meets_release h hlen) fun _ l hl => ih hl (Nat.le_of_succ_le hlen)

private theorem meets_finish {l : Ledger} {held : List Buffer} (h : l.Holds held)
    (hlen : held.length ≤ 3) (result : α) :
    (finish held result).Meets custody (fun _ l => l.Settled) l :=
  meets_bind (meets_releaseAll h hlen) fun _ _ hl => ⟨hl.sound, hl⟩

/-- **One frame.** It ends with no buffer out, with two or with three, and they all go back. -/
theorem tidy_resolve (m : Method) : Tidy (resolve m) := by
  intro l hl
  have hnone : l.Holds [] := holds_nil.mpr hl
  refine meets_request_bind.mpr ⟨hl.sound, fun answer => ?_⟩
  rcases answer with e | ⟨name, signature⟩
  · -- without a name nothing was lent
    have h := hnone.lend (.methodName m) (.error e) [] rfl rfl
    exact ⟨h.sound (by simp), holds_nil.mp h⟩
  -- from here on two buffers are out, and they go back in the reverse order
  have htwo := hnone.lend (.methodName m) (.ok (name, signature)) [signature, name]
    (Multiset.pair_comm name signature) rfl
  refine meets_request_bind.mpr ⟨htwo.sound (by simp), fun answer => ?_⟩
  rcases answer with e | c
  · exact meets_finish (htwo.lend (.declaringClass m) (.error e) [] rfl rfl) (by simp) _
  -- a class is no buffer; its signature is the third one
  have hclass := htwo.lend (.declaringClass m) (.ok c) [] rfl rfl
  refine meets_request_bind.mpr ⟨hclass.sound (by simp), fun answer => ?_⟩
  rcases answer with e | cls
  · exact meets_finish (hclass.lend (.classSignature c) (.error e) [] rfl rfl) (by simp) _
  · exact meets_finish (hclass.lend (.classSignature c) (.ok cls) [cls] rfl rfl) (by simp) _

private theorem tidy_resolveAll (ms : List Method) : Tidy (resolveAll ms) := by
  induction ms with
  | nil => exact Tidy.pure _
  | cons m rest ih =>
    refine (tidy_resolve m).bind fun resolved => ?_
    rcases resolved with e | frame
    · exact Tidy.pure _
    · exact ih.bind fun later => Tidy.pure _

private theorem tidy_describe (ms : List Method) : Tidy (describe ms) := by
  refine (tidy_resolveAll ms).bind fun resolved => ?_
  obtain ⟨frames, _ | e⟩ := resolved
  · exact (Tidy.pure ()).bind fun _ => Tidy.pure _
  · exact (tidy_log _).bind fun _ => Tidy.pure _

/-- **Captures are tidy**, at any depth and wherever they fail. -/
theorem tidy_capture (thread depth : Nat) : Tidy (capture thread depth) := by
  rw [capture]
  split
  · exact Tidy.pure none
  refine (tidy_call (fun _ => rfl) rfl).bind fun answer => ?_
  rcases answer with e | _ | ⟨m, ms⟩
  · exact (tidy_log _).bind fun _ => Tidy.pure none
  · exact Tidy.pure none
  · exact tidy_describe _

private theorem tidy_findStack (depth thread : Nat) : Tidy (findStack depth thread) := by
  rw [findStack]
  split
  · exact Tidy.pure none
  · exact (tidy_capture thread depth).bind fun _ => (tidy_bump _).bind fun _ =>
      (tidy_bumpIf _ _).bind fun _ => (tidy_bumpIf _ _).bind fun _ =>
      (tidy_bumpIf _ _).bind fun _ => Tidy.pure _

private theorem tidy_findThreadName (thread : Nat) : Tidy (findThreadName thread) := by
  intro l hl
  have hnone : l.Holds [] := holds_nil.mpr hl
  refine meets_request_bind.mpr ⟨hl.sound, fun answer => ?_⟩
  rcases answer with e | name
  · have h := hnone.lend (.threadInfo thread) (.error e) [] rfl rfl
    have htail : Tidy (do log (.threadInfoUnavailable e); bump .softFailures; pure none) :=
      (tidy_log _).bind fun _ => (tidy_bump _).bind fun _ => Tidy.pure (none : Option String)
    exact htail (holds_nil.mp h)
  · exact meets_finish (hnone.lend (.threadInfo thread) (.ok name) [name] rfl rfl) (by simp) _

private theorem tidy_findOsThreadId (thread : Nat) : Tidy (findOsThreadId thread) := by
  refine (tidy_call (fun _ => rfl) rfl).bind fun answer => ?_
  rcases answer with e | id
  · exact (tidy_log _).bind fun _ => (tidy_bump _).bind fun _ => Tidy.pure none
  · exact Tidy.pure (some id)

private theorem tidy_emit (name : String) (count : UInt64) (thread : Nat) :
    Tidy (emit name count thread) :=
  (tidy_request fun _ _ => rfl).bind fun depth => (tidy_findStack depth thread).bind fun _ =>
    (tidy_findThreadName thread).bind fun _ => (tidy_findOsThreadId thread).bind fun _ =>
    (tidy_request fun _ _ => rfl).bind fun _ => (tidy_bump _).bind fun _ => Tidy.pure _

/-- **Events are tidy**, whatever becomes of them. -/
theorem tidy_observe (thread object : Nat) : Tidy (observe thread object) := by
  refine (tidy_bump _).bind fun _ => (tidy_request fun _ _ => rfl).bind fun admitted => ?_
  cases admitted with
  | false => exact Tidy.pure _
  | true =>
    refine (tidy_bump _).bind fun _ => (tidy_call (fun _ => rfl) rfl).bind fun answer => ?_
    rcases answer with e | name
    · exact (tidy_log _).bind fun _ => (tidy_bump _).bind fun _ => Tidy.pure _
    · exact (tidy_request fun _ _ => rfl).bind fun count => tidy_emit name count thread

end Talk

/-! ### Counters -/

/-- A call that lends nothing leaves the counter alone. -/
private theorem Host.outstanding_serve_zero (h : Host) (answer : Except HostError α) :
    (h.serve 0 answer).2.outstanding = h.outstanding := by
  cases answer <;> simp [serve]

/-- What a call does to the counter. -/
theorem Host.outstanding_answer (h : Host) (q : Query) :
    (h.answer q).2.outstanding = h.outstanding + UInt64.ofNat (q.lent (h.answer q).1).card -
      if h.conduct.leaky then 0 else UInt64.ofNat q.returned.card := by
  cases q with
  | objectClass object =>
    simp [answer, objectClass, outstanding_serve_zero, Query.lent, Query.returned]
  | stackTrace thread start most =>
    simp [answer, stackTrace, outstanding_serve_zero, Query.lent, Query.returned]
  | methodName m =>
    rcases ha : h.scenario.methodName m with e | ⟨name, signature⟩ <;>
      simp [answer, methodName, serve, ha, Query.lent, Query.returned]
  | declaringClass m =>
    simp [answer, declaringClass, outstanding_serve_zero, Query.lent, Query.returned]
  | classSignature cls =>
    rcases ha : h.scenario.classSignature cls with e | text <;>
      simp [answer, classSignature, serve, ha, Query.lent, Query.returned]
  | threadInfo thread =>
    rcases ha : h.scenario.threadInfo thread with e | name <;>
      simp [answer, threadInfo, serve, ha, Query.lent, Query.returned]
  | osThreadId thread =>
    simp [answer, osThreadId, outstanding_serve_zero, Query.lent, Query.returned]
  | deallocate b =>
    rcases hl : h.conduct.leaky with _ | _ <;>
      simp [answer, deallocate, hl, Query.lent, Query.returned]

theorem Host.conduct_answer (h : Host) (q : Query) : (h.answer q).2.conduct = h.conduct := by
  cases q with
  | deallocate b => simp only [answer, deallocate]; split <;> rfl
  | _ => rfl

namespace Ledger

/-- The counter of a host that started from none out. A leaky host takes nothing back. -/
def outstanding (l : Ledger) (leaky : Bool) : UInt64 :=
  UInt64.ofNat l.lent.card - if leaky then 0 else UInt64.ofNat l.returned.card

/-- The counter of the station's host goes with the ledger. -/
structure Counts (leaky : Bool) (s : Station) (l : Ledger) : Prop where
  conduct : s.monitor.host.conduct.leaky = leaky
  outstanding : s.monitor.host.outstanding = l.outstanding leaky

/-- Every action changes the counter and the ledger alike. -/
theorem Counts.perform {leaky : Bool} {s : Station} {l : Ledger} (h : Counts leaky s l)
    (a : Action) :
    Counts leaky (s.perform a).2 (l.enter a (s.perform a).1) := by
  cases a with
  | call q =>
    refine ⟨?_, ?_⟩
    · rw [← h.conduct, ← s.monitor.host.conduct_answer q]
      rfl
    · have hcounter := s.monitor.host.outstanding_answer q
      change (s.monitor.host.answer q).2.outstanding = Ledger.outstanding
        ⟨l.lent + q.lent (s.monitor.host.answer q).1, l.returned + q.returned⟩ leaky
      rw [hcounter, h.outstanding, h.conduct, Ledger.outstanding, Ledger.outstanding,
        Multiset.card_add, Multiset.card_add, UInt64.ofNat_add, UInt64.ofNat_add]
      -- words form a ring, so it does not matter that the counter may pass zero
      cases leaky <;> grind
  | _ => exact ⟨h.conduct, h.outstanding⟩

/-- The counter of a host that takes buffers back, in numbers without a bound. -/
theorem Counts.toNat {s : Station} {l : Ledger} (h : Counts false s l) (hl : l.Sound) :
    l.returned.card + s.monitor.host.outstanding.toNat = l.lent.card := by
  have hle : l.returned.card ≤ l.lent.card := Multiset.card_le_card hl.returned_le
  -- so few buffers are out that the word has not wrapped around
  have hfew : l.lent.card - l.returned.card < UInt64.size := by
    have := hl.lent_le
    simp only [UInt64.size]
    omega
  have hout : s.monitor.host.outstanding = UInt64.ofNat (l.lent.card - l.returned.card) := by
    rw [h.outstanding, Ledger.outstanding, UInt64.ofNat_sub hle]
    rfl
  rw [hout, UInt64.toNat_ofNat_of_lt' hfew]
  omega

/-- The counter along a dialogue, after every beginning of its transcript. -/
theorem Counts.after {leaky : Bool} {s : Station} {l : Ledger} (h : Counts leaky s l) (d : Talk α)
    {past : List ((a : Action) × a.Answer)} (hpast : past <+: d.transcript Station.perform s) :
    Counts leaky (after Station.perform s past) (custody.enterAll l past) :=
  tracks_transcript (fun _ _ a hs => hs.perform a) d h hpast

end Ledger

/-! ### Runs -/

namespace Station

/-- The transcript of a step; nothing but an event has one. -/
def stepTranscript (s : Station) : Step → List ((a : Action) × a.Answer)
  | .event thread object => (Talk.observe thread object).transcript perform s
  | .control _ => []
  | .close => []

/-- The transcripts of some steps, one after the other. -/
def transcript (s : Station) : List Step → List ((a : Action) × a.Answer)
  | [] => []
  | first :: rest => s.stepTranscript first ++ (s.step first).2.transcript rest

end Station

namespace Ledger

/-- **One step** leaves the ledger settled and the counter with it. -/
theorem Counts.step {leaky : Bool} {s : Station} {l : Ledger} (h : Counts leaky s l)
    (hl : l.Settled) (first : Station.Step) :
    Counts leaky (s.step first).2 (custody.enterAll l (s.stepTranscript first)) ∧
      (custody.enterAll l (s.stepTranscript first)).Settled := by
  cases first with
  | control change => exact ⟨⟨h.conduct, h.outstanding⟩, hl⟩
  | close => exact ⟨⟨h.conduct, h.outstanding⟩, hl⟩
  | event thread object =>
    have hcounts := h.after (Talk.observe thread object) (List.prefix_refl _)
    rw [after_transcript, Talk.run_observe] at hcounts
    exact ⟨hcounts, ((Talk.tidy_observe thread object hl).transcript Station.perform s).2⟩

/-- **A run** leaves the ledger settled and the counter with it. -/
theorem Counts.run {leaky : Bool} {s : Station} {l : Ledger} (h : Counts leaky s l)
    (hl : l.Settled) (steps : List Station.Step) :
    Counts leaky (s.run steps).2 (custody.enterAll l (s.transcript steps)) ∧
      (custody.enterAll l (s.transcript steps)).Settled := by
  induction steps generalizing s l with
  | nil => exact ⟨h, hl⟩
  | cons first rest ih =>
    obtain ⟨hcounts, hsettled⟩ := h.step hl first
    -- the ledger of the first step is where the others start from
    have happend : custody.enterAll l (s.transcript (first :: rest)) =
        custody.enterAll (custody.enterAll l (s.stepTranscript first))
          ((s.step first).2.transcript rest) := List.foldl_append
    rw [happend]
    exact ih hcounts hsettled

/-- In a transcript each buffer that is lent is handed back, and handed back just once: never one
that is not out, and at the end all of them. -/
structure Balanced (lines : List ((a : Action) × a.Answer)) : Prop where
  sound : ∀ past, past <+: lines → (ofTranscript past).Sound
  settled : (ofTranscript lines).Settled

end Ledger

/-- Tidy dialogues have balanced transcripts, whoever answers. -/
theorem Talk.Tidy.balanced {d : Talk α} (h : Tidy d) {σ : Type}
    (answer : σ → (a : Action) → a.Answer × σ) (s : σ) :
    Ledger.Balanced (d.transcript answer s) := by
  have hnew : Ledger.Settled {} := rfl
  obtain ⟨hsound, hsettled⟩ := (h hnew).transcript answer s
  exact ⟨hsound, hsettled⟩

/-- The station with a new host. -/
def Station.over (s : Station) (scenario : Scenario) (conduct : Conduct) : Station :=
  { s with monitor := { s.monitor with host := { scenario := scenario, conduct := conduct } } }

open Ledger in
/-- **Every buffer goes back on every path.** Let `n` be the object of an event or the depth of a
capture. Whatever the actions of the event or the capture are answered, their transcript is
balanced; held with a station, these dialogues are what the station and its host do. So the counter
of a host that takes buffers back is zero after every run, and in the midst of what follows it is
the number of buffers that are out, without ever passing zero. The counter of a host that takes
nothing back is the number of buffers lent, and as many attempts were made to hand one back. -/
theorem buffers_go_back (s : Station) (scenario : Scenario) (greedy : Bool)
    (steps : List Station.Step) (thread n : Nat) :
    (∀ {σ : Type} (answer : σ → (a : Action) → a.Answer × σ) (start : σ),
      Balanced ((Talk.observe thread n).transcript answer start) ∧
        Balanced ((Talk.capture thread n).transcript answer start)) ∧
    ((Talk.observe thread n).run Station.perform s = s.observe thread n ∧
      (Talk.capture thread n).run Station.perform s =
        ((s.monitor.host.capture thread n).result,
          s.talked (s.monitor.host.capture thread n).host
            (s.monitor.host.capture thread n).log)) ∧
    (let last := ((s.over scenario ⟨greedy, false⟩).run steps).2
     last.monitor.host.outstanding = 0 ∧
       ∀ past, past <+: (Talk.observe thread n).transcript Station.perform last ∨
           past <+: (Talk.capture thread n).transcript Station.perform last →
         (ofTranscript past).returned.card +
             (after Station.perform last past).monitor.host.outstanding.toNat =
           (ofTranscript past).lent.card) ∧
    (let start := s.over scenario ⟨greedy, true⟩
     let ledger := ofTranscript (start.transcript steps)
     (start.run steps).2.monitor.host.outstanding = UInt64.ofNat ledger.lent.card ∧
       ledger.lent.card = ledger.returned.card) := by
  have hnew : Settled {} := rfl
  have hobserve := Talk.tidy_observe thread n
  have hcapture := Talk.tidy_capture thread n
  refine ⟨fun answer start => ⟨hobserve.balanced answer start, hcapture.balanced answer start⟩,
    ⟨Talk.run_observe s thread n, Talk.run_capture s thread n⟩, ?_, ?_⟩
  · intro last
    have hstart : Counts false (s.over scenario ⟨greedy, false⟩) {} := ⟨rfl, rfl⟩
    obtain ⟨hcounts, hsettled⟩ := hstart.run hnew steps
    have hzero : last.monitor.host.outstanding = 0 := by
      rw [hcounts.outstanding, Ledger.outstanding, hsettled]
      exact UInt64.sub_self _
    -- nothing is out, so from here on a new ledger does
    have hlast : Counts false last {} := ⟨hcounts.conduct, hzero⟩
    refine ⟨hzero, fun past hpast => ?_⟩
    rcases hpast with hpast | hpast
    · exact (hlast.after _ hpast).toNat ((hobserve.balanced Station.perform last).sound past hpast)
    · exact (hlast.after _ hpast).toNat ((hcapture.balanced Station.perform last).sound past hpast)
  · intro start ledger
    have hstart : Counts true start {} := ⟨rfl, rfl⟩
    obtain ⟨hcounts, hsettled⟩ := hstart.run hnew steps
    refine ⟨?_, congrArg Multiset.card hsettled⟩
    rw [hcounts.outstanding, Ledger.outstanding]
    exact UInt64.sub_zero _

open Ledger in
/-- In the midst of a frame three buffers are out, and the host that takes buffers back counts them;
the second frame fails with two buffers out, and they go back like the others. -/
theorem buffers_go_back_twoFrames :
    let scenario : Scenario :=
      { objects := [⟨"Lock", false⟩]
        threads := [{ name := "main"
                      frames := [⟨"LMain;", "run", "()V", none⟩,
                        ⟨"LMain;", "main", "()V", some .classSignature⟩] }] }
    let start : Station := Station.over { monitor := { host := default }, sink := .closure [] }
      scenario {}
    let last := (start.run [.event 0 0, .control (.depth 5)]).2
    let lines := (Talk.observe 0 0).transcript Station.perform last
    let outstanding (past : List ((a : Action) × a.Answer)) :=
      (after Station.perform last past).monitor.host.outstanding.toNat
    ((ofTranscript (lines.take 10)).lent.card = 3 ∧ outstanding (lines.take 10) = 3) ∧
      (ofTranscript lines).lent.card = 6 ∧ (ofTranscript lines).returned.card = 6 ∧
      outstanding lines = 0 := by
  intro scenario start last lines outstanding
  obtain ⟨hbalanced, -, ⟨-, hpast⟩, -⟩ :=
    buffers_go_back { monitor := { host := default }, sink := .closure [] } scenario false
      [.event 0 0, .control (.depth 5)] 0 0
  have hthree : (ofTranscript (lines.take 10)).lent.card = 3 := by decide
  have hnone : (ofTranscript (lines.take 10)).returned.card = 0 := by decide
  have hsix : (ofTranscript lines).lent.card = 6 := by decide
  have hback : (ofTranscript lines).returned.card = 6 := by
    rw [← hsix, (hbalanced Station.perform last).1.settled]
  have hmid := hpast (lines.take 10) (.inl (List.take_prefix 10 lines))
  have hend := hpast lines (.inl (List.prefix_refl lines))
  rw [hnone, hthree] at hmid
  rw [hsix, hback] at hend
  refine ⟨⟨hthree, ?_⟩, hsix, hback, ?_⟩
  · exact (Nat.zero_add _).symm.trans hmid
  · exact Nat.add_eq_left.mp hend

end Contention
