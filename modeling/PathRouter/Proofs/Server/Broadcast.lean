import Mathlib.Data.Set.Card
import PathRouter.Broadcast

/-!
# What the receivers of a broadcast get

Subscribing, sending, receiving and dropping can come in any order (`Broadcast.Event`). What a
receiver gets depends only on how many signals it is behind (`fst_poll`), and every signal that is
sent while it listens puts it one further behind (`behind_run`): signals are lost only if nobody
listens. So the answers to a receiver are a matter of the signals between its receives
(`answers_run`). One signal is received once. Of several the receiver learns first how many it
missed, and then gets the last (`answer_after_two_triggers`).
-/

namespace PathRouter

namespace Signal

/-- What a receiver gets that is so many signals behind. -/
def ofBehind : Nat → Signal
  | 0 => empty
  | 1 => fired
  | missed + 2 => lagged (missed + 1)

/-- How many signals a receiver is behind after an answer: the one that is kept, if it learned that
it missed some. -/
def kept : Signal → Nat
  | lagged _ => 1
  | empty | fired => 0

theorem kept_ofBehind_le : ∀ n, (ofBehind n).kept ≤ n
  | 0 => le_rfl
  | 1 => Nat.zero_le 1
  | _ + 2 => Nat.succ_le_succ (Nat.zero_le _)

end Signal

namespace Broadcast

/-- Something that happens to a channel; receivers are numbered as they subscribe. -/
inductive Event where
  | subscribe
  | trigger
  | receive (i : Nat)
  | drop (i : Nat)
deriving DecidableEq

/-- What an event changes. -/
def step (b : Broadcast) : Event → Broadcast
  | .subscribe => b.subscribe
  | .trigger => b.trigger
  | .receive i => (b.poll i).2
  | .drop i => b.drop i

/-- What events change, one after another. -/
def run (b : Broadcast) (es : List Event) : Broadcast := es.foldl step b

/-- What a receiver of a new channel gets after some events. -/
def answer (es : List Event) (i : Nat) : Signal := ((run {} es).poll i).1

/-- Whether a receiver listens after some events: it has subscribed and was not dropped since. -/
def Listens (es : List Event) (i : Nat) : Prop :=
  ∃ before after, es = before ++ .subscribe :: after ∧ before.count .subscribe = i ∧
    .drop i ∉ after

/-- How many signals a receiver is past, while it listens. -/
def past? (b : Broadcast) (i : Nat) : Option Nat := b.receivers[i]?.join

/-- How many signals a receiver is behind. -/
def behind (b : Broadcast) (i : Nat) : Nat := b.sent - (b.past? i).getD b.sent

/-- No receiver is past a signal that was not sent. -/
def Sound (b : Broadcast) : Prop := ∀ i past, b.past? i = some past → past ≤ b.sent

variable {b : Broadcast} {es ds : List Event} {i j past : Nat}

/-! ### One event -/

theorem join_getElem?_concat (rs : List (Option Nat)) (r : Option Nat) (j : Nat) :
    (rs ++ [r])[j]?.join = if j = rs.length then r else rs[j]?.join := by
  rcases Nat.lt_trichotomy j rs.length with hj | rfl | hj
  · rw [List.getElem?_append_left hj, if_neg (by omega)]
  · simp
  · rw [List.getElem?_eq_none (by simp; omega), List.getElem?_eq_none (by omega),
      if_neg (by omega)]

theorem past?_subscribe (b : Broadcast) (j : Nat) :
    b.subscribe.past? j = if j = b.receivers.length then some b.sent else b.past? j :=
  join_getElem?_concat b.receivers (some b.sent) j

theorem past?_set (b : Broadcast) (i : Nat) (r : Option Nat) (j : Nat) :
    past? { b with receivers := b.receivers.set i r } j =
      if j = i ∧ j < b.receivers.length then r else b.past? j := by
  unfold past?
  by_cases hj : j = i ∧ j < b.receivers.length
  · obtain ⟨rfl, hlt⟩ := hj
    simp [hlt]
  · rw [if_neg hj]
    show (b.receivers.set i r)[j]?.join = _
    by_cases hi : i = j
    · rw [List.set_eq_of_length_le (by omega)]
    · rw [List.getElem?_set_ne hi]

theorem past?_set_of_lt (h : i < b.receivers.length) (r : Option Nat) (j : Nat) :
    past? { b with receivers := b.receivers.set i r } j = if j = i then r else b.past? j := by
  rw [past?_set]
  by_cases hj : j = i
  · rw [if_pos ⟨hj, hj ▸ h⟩, if_pos hj]
  · rw [if_neg fun h => hj h.1, if_neg hj]

theorem past?_of_le (h : b.receivers.length ≤ i) : b.past? i = none := by
  rw [past?, List.getElem?_eq_none h, Option.join_none]

theorem past?_drop (b : Broadcast) (i j : Nat) :
    (b.drop i).past? j = if j = i then none else b.past? j := by
  rw [drop, past?_set]
  by_cases hj : j = i
  · rw [if_pos hj]
    split_ifs with hlt
    · rfl
    · exact past?_of_le (by omega)
  · rw [if_neg hj, if_neg (fun h => hj h.1)]

/-- A signal is sent if anyone listens. -/
theorem sent_trigger (h : (b.past? i).isSome) : b.trigger.sent = b.sent + 1 := by
  have hcount : b.receiverCount ≠ 0 := by
    obtain ⟨past, hpast⟩ := Option.isSome_iff_exists.mp h
    have hmem : some past ∈ b.receivers :=
      List.mem_of_getElem? (Option.join_eq_some_iff.mp hpast)
    exact (List.countP_pos_iff.mpr ⟨some past, hmem, rfl⟩).ne'
  rw [trigger, if_neg hcount]

theorem past?_trigger (b : Broadcast) (j : Nat) : b.trigger.past? j = b.past? j := by
  unfold trigger
  split_ifs <;> rfl

theorem sent_le_trigger (b : Broadcast) : b.sent ≤ b.trigger.sent := by
  unfold trigger
  split_ifs
  · exact le_rfl
  · exact Nat.le_succ _

/-- **What a receiver gets**, and how far it is behind then. -/
theorem poll_eq (h : b.Sound) (i : Nat) : (b.poll i).1 = .ofBehind (b.behind i) ∧
    (b.poll i).2.sent = b.sent ∧ ∀ j, (b.poll i).2.past? j =
      if j = i then (b.past? i).map fun _ => b.sent - (b.poll i).1.kept else b.past? j := by
  unfold poll
  split
  · next past hr =>
    have hpast : b.past? i = some past := by rw [past?, hr, Option.join_some]
    have hle := h i past hpast
    have hlt : i < b.receivers.length := (List.getElem?_eq_some_iff.mp hr).1
    rw [behind, hpast, Option.getD_some]
    split_ifs with hsent hnext
    · obtain rfl : past = b.sent := by omega
      refine ⟨by rw [Nat.sub_self]; rfl, rfl, fun j => ?_⟩
      split_ifs with hj
      · exact hj ▸ hpast
      · rfl
    · have hone : b.sent - past = 1 := by omega
      exact ⟨by rw [hone]; rfl, rfl, past?_set_of_lt hlt _⟩
    · have hmore : b.sent - past = (b.sent - 1 - past - 1) + 2 := by omega
      have hmissed : b.sent - 1 - past = (b.sent - 1 - past - 1) + 1 := by omega
      refine ⟨?_, rfl, past?_set_of_lt hlt _⟩
      rw [hmore, Signal.ofBehind, ← hmissed]
  · next hr =>
    have hpast : b.past? i = none := by
      refine Option.eq_none_iff_forall_ne_some.mpr fun past hp => ?_
      exact hr past (Option.join_eq_some_iff.mp hp)
    rw [behind, hpast, Option.getD_none, Nat.sub_self]
    refine ⟨rfl, rfl, fun j => ?_⟩
    split_ifs with hj
    · exact hj ▸ hpast
    · rfl

/-- A receiver that was polled is behind by what it did not get yet. -/
theorem behind_poll (h : b.Sound) (i : Nat) :
    (b.poll i).2.behind i = (Signal.ofBehind (b.behind i)).kept := by
  obtain ⟨hsignal, hsent, hpast⟩ := poll_eq h i
  rw [behind, hsent, hpast, if_pos rfl, hsignal]
  cases hp : b.past? i with
  | none => simp [behind, hp, Signal.ofBehind, Signal.kept]
  | some past =>
    have hle : b.behind i ≤ b.sent := Nat.sub_le _ _
    have hkept := Signal.kept_ofBehind_le (b.behind i)
    rw [Option.map_some, Option.getD_some]
    omega

theorem Sound.step (h : b.Sound) (e : Event) : (b.step e).Sound := by
  intro j past hj
  cases e with
  | subscribe =>
    have hj : b.subscribe.past? j = some past := hj
    show past ≤ b.sent
    rw [past?_subscribe] at hj
    split_ifs at hj
    · exact (Option.some.inj hj).ge
    · exact h j past hj
  | trigger =>
    have hj : b.trigger.past? j = some past := hj
    rw [past?_trigger] at hj
    exact (h j past hj).trans b.sent_le_trigger
  | receive i =>
    obtain ⟨-, hsent, hpast⟩ := poll_eq h i
    have hj : (b.poll i).2.past? j = some past := hj
    show past ≤ (b.poll i).2.sent
    rw [hpast] at hj
    rw [hsent]
    split_ifs at hj
    · obtain ⟨_, -, rfl⟩ := Option.map_eq_some_iff.mp hj
      exact Nat.sub_le _ _
    · exact h j past hj
  | drop i =>
    have hj : (b.drop i).past? j = some past := hj
    show past ≤ b.sent
    rw [past?_drop] at hj
    split_ifs at hj
    exact h j past hj

/-- Whether a receiver listens after an event. -/
theorem isSome_past?_step (h : b.Sound) (e : Event) (i : Nat) : ((b.step e).past? i).isSome ↔
    (e = .subscribe ∧ i = b.receivers.length) ∨ ((b.past? i).isSome ∧ e ≠ .drop i) := by
  cases e with
  | subscribe =>
    show (b.subscribe.past? i).isSome ↔ _
    rw [past?_subscribe]
    by_cases hi : i = b.receivers.length <;> simp [hi]
  | trigger =>
    show (b.trigger.past? i).isSome ↔ _
    simp [past?_trigger]
  | receive j =>
    obtain ⟨-, -, hpast⟩ := poll_eq h j
    show ((b.poll j).2.past? i).isSome ↔ _
    rw [hpast]
    by_cases hi : i = j <;> simp [hi]
  | drop j =>
    show ((b.drop j).past? i).isSome ↔ _
    rw [past?_drop]
    by_cases hi : i = j
    · simp [hi]
    · simp [hi, Ne.symm hi]

theorem length_step (b : Broadcast) (e : Event) :
    (b.step e).receivers.length = b.receivers.length + [e].count .subscribe := by
  cases e with
  | subscribe => simp [step, subscribe]
  | trigger =>
    show b.trigger.receivers.length = b.receivers.length
    unfold trigger
    split_ifs <;> rfl
  | receive i =>
    show (b.poll i).2.receivers.length = b.receivers.length
    unfold poll
    split
    · split_ifs <;> simp
    · rfl
  | drop i => simp [step, drop]

/-- What others do leaves a receiver where it is. -/
theorem past?_step (h : b.Sound) (hi : (b.past? i).isSome) {e : Event} (hr : e ≠ .receive i)
    (hd : e ≠ .drop i) : (b.step e).past? i = b.past? i := by
  cases e with
  | subscribe =>
    show b.subscribe.past? i = _
    rw [past?_subscribe, if_neg]
    rintro rfl
    rw [past?_of_le le_rfl] at hi
    simp at hi
  | trigger => exact past?_trigger b i
  | receive j =>
    show (b.poll j).2.past? i = _
    rw [(poll_eq h j).2.2, if_neg]
    rintro rfl
    exact hr rfl
  | drop j =>
    show (b.drop j).past? i = _
    rw [past?_drop, if_neg]
    rintro rfl
    exact hd rfl

theorem sent_step (h : b.Sound) (hi : (b.past? i).isSome) (e : Event) :
    (b.step e).sent = b.sent + [e].count .trigger := by
  cases e with
  | subscribe => rfl
  | trigger => exact sent_trigger hi
  | receive j => exact (poll_eq h j).2.1
  | drop j => rfl

/-- **Every signal puts a receiver one further behind**; what others do does not. -/
theorem behind_step (h : b.Sound) (hi : (b.past? i).isSome) {e : Event} (hr : e ≠ .receive i)
    (hd : e ≠ .drop i) : (b.step e).behind i = b.behind i + [e].count .trigger := by
  obtain ⟨past, hpast⟩ := Option.isSome_iff_exists.mp hi
  have hle := h i past hpast
  rw [behind, behind, past?_step h hi hr hd, sent_step h hi e, hpast]
  simp only [Option.getD_some]
  omega

/-- Without a signal a receiver that is not behind stays so. -/
theorem behind_step_of_ne (h : b.Sound) (hi : b.behind i = 0) {e : Event} (he : e ≠ .trigger) :
    (b.step e).behind i = 0 := by
  cases e with
  | subscribe =>
    show b.subscribe.behind i = 0
    rw [behind, past?_subscribe]
    split_ifs
    · exact Nat.sub_self b.sent
    · exact hi
  | trigger => exact absurd rfl he
  | receive j =>
    show (b.poll j).2.behind i = 0
    by_cases hj : i = j
    · subst hj
      rw [behind_poll h, hi]
      rfl
    · obtain ⟨-, hsent, hpast⟩ := poll_eq h j
      rw [behind, hsent, hpast, if_neg hj]
      exact hi
  | drop j =>
    show (b.drop j).behind i = 0
    rw [behind, past?_drop]
    split_ifs
    · exact Nat.sub_self b.sent
    · exact hi

/-! ### Runs -/

theorem run_cons (b : Broadcast) (e : Event) (es : List Event) :
    b.run (e :: es) = (b.step e).run es := rfl

theorem run_append (b : Broadcast) (es ds : List Event) : b.run (es ++ ds) = (b.run es).run ds :=
  List.foldl_append ..

theorem Sound.run (h : b.Sound) (es : List Event) : (b.run es).Sound := by
  induction es generalizing b with
  | nil => exact h
  | cons e es ih => exact ih (h.step e)

theorem sound_run (es : List Event) : (run {} es).Sound :=
  Sound.run (fun i past h => by simp [past?] at h) es

theorem length_run (b : Broadcast) (es : List Event) :
    (b.run es).receivers.length = b.receivers.length + es.count .subscribe := by
  induction es generalizing b with
  | nil => rfl
  | cons e es ih =>
    rw [run_cons, ← List.singleton_append, List.count_append, ih, length_step, Nat.add_assoc]

/-- **Between its receives** every signal puts a receiver one further behind. -/
theorem behind_run (h : b.Sound) (hi : (b.past? i).isSome) (hr : .receive i ∉ es)
    (hd : .drop i ∉ es) : (b.run es).behind i = b.behind i + es.count .trigger := by
  induction es generalizing b with
  | nil => rfl
  | cons e es ih =>
    simp only [List.mem_cons, not_or] at hr hd
    have hi' : ((b.step e).past? i).isSome :=
      (isSome_past?_step h e i).mpr (Or.inr ⟨hi, Ne.symm hd.1⟩)
    rw [run_cons, ← List.singleton_append, List.count_append, ih (h.step e) hi' hr.2 hd.2,
      behind_step h hi (Ne.symm hr.1) (Ne.symm hd.1), Nat.add_assoc]

/-- Without a signal a receiver that is not behind stays so, whatever it receives. -/
theorem behind_run_of_not_mem (h : b.Sound) (hi : b.behind i = 0) (he : .trigger ∉ es) :
    (b.run es).behind i = 0 := by
  induction es generalizing b with
  | nil => exact hi
  | cons e es ih =>
    simp only [List.mem_cons, not_or] at he
    exact ih (h.step e) (behind_step_of_ne h hi (Ne.symm he.1)) he.2

/-! ### Who listens -/

theorem listens_snoc (es : List Event) (e : Event) (i : Nat) : Listens (es ++ [e]) i ↔
    (e = .subscribe ∧ i = es.count .subscribe) ∨ (Listens es i ∧ e ≠ .drop i) := by
  constructor
  · rintro ⟨before, after, hes, rfl, hd⟩
    rcases List.eq_nil_or_concat after with rfl | ⟨after, x, rfl⟩
    · obtain ⟨rfl, he⟩ := List.append_inj' hes rfl
      exact Or.inl ⟨List.singleton_inj.mp he, rfl⟩
    · rw [List.concat_eq_append, ← List.cons_append, ← List.append_assoc] at hes
      obtain ⟨rfl, he⟩ := List.append_inj' hes rfl
      obtain rfl := List.singleton_inj.mp he
      simp only [List.concat_eq_append, List.mem_append, List.mem_singleton, not_or] at hd
      exact Or.inr ⟨⟨before, after, rfl, rfl, hd.1⟩, Ne.symm hd.2⟩
  · rintro (⟨rfl, rfl⟩ | ⟨⟨before, after, rfl, rfl, hd⟩, he⟩)
    · exact ⟨es, [], rfl, rfl, by simp⟩
    · refine ⟨before, after ++ [e], by simp, rfl, ?_⟩
      simpa using ⟨hd, Ne.symm he⟩

/-- Who listens has a place in the channel, and nobody else has. -/
theorem listens_iff (es : List Event) (i : Nat) :
    Listens es i ↔ ((run {} es).past? i).isSome := by
  induction es using List.reverseRecOn with
  | nil => simp [Listens, run, past?]
  | append_singleton es e ih =>
    rw [listens_snoc, run_append]
    show _ ↔ (((run {} es).step e).past? i).isSome
    rw [isSome_past?_step (sound_run es), ih, length_run]
    simp

theorem countP_isSome_eq (rs : List (Option Nat)) :
    rs.countP Option.isSome = Set.ncard {i : Nat | (rs[i]?.join).isSome} := by
  induction rs using List.reverseRecOn with
  | nil => simp
  | append_singleton rs r ih =>
    have hlt : ∀ i, (rs[i]?.join).isSome → i < rs.length := by
      intro i hi
      by_contra hle
      simp [List.getElem?_eq_none (Nat.le_of_not_lt hle)] at hi
    rw [List.countP_append, ih]
    simp only [join_getElem?_concat]
    cases r with
    | none =>
      refine congrArg Set.ncard (Set.ext fun i => ?_)
      show (rs[i]?.join).isSome ↔ (if i = rs.length then none else rs[i]?.join).isSome
      by_cases hi : i = rs.length <;> simp [hi]
    | some past =>
      have hset : {i : Nat | (if i = rs.length then some past else rs[i]?.join).isSome} =
          insert rs.length {i : Nat | (rs[i]?.join).isSome} := by
        refine Set.ext fun i => ?_
        by_cases hi : i = rs.length <;> simp [hi]
      have hfinite : {i : Nat | (rs[i]?.join).isSome}.Finite :=
        (Set.finite_lt_nat rs.length).subset hlt
      have hnew : rs.length ∉ {i : Nat | (rs[i]?.join).isSome} :=
        fun h => Nat.lt_irrefl _ (hlt _ h)
      rw [hset, Set.ncard_insert_of_notMem hnew hfinite]
      rfl

/-- **How many receivers are counted**: those that listen. -/
theorem receiverCount_run (es : List Event) :
    (run {} es).receiverCount = {i | Listens es i}.ncard := by
  simp only [listens_iff]
  exact countP_isSome_eq _

/-! ### What receivers get -/

theorem answer_eq (es : List Event) (i : Nat) : answer es i = .ofBehind ((run {} es).behind i) :=
  (poll_eq (sound_run es) i).1

/-- A receiver that has just subscribed listens and is not behind. -/
theorem behind_subscribe {i : Nat} (h : es.count .subscribe = i) :
    (((run {} es).step .subscribe).past? i).isSome ∧
      ((run {} es).step .subscribe).behind i = 0 := by
  have hpast : ((run {} es).step .subscribe).past? i = some (run {} es).sent := by
    show (run {} es).subscribe.past? i = _
    rw [past?_subscribe, if_pos]
    rw [length_run, h]
    simp
  refine ⟨hpast ▸ rfl, ?_⟩
  rw [behind, hpast]
  exact Nat.sub_self (run {} es).sent

/-- **What the receivers of a channel get**, in whatever order it is used. The first receive gives
one signal for one that was sent since subscribing, and for more how many were missed. So does a
receive after another one, where the signal that was kept counts again if that one told of signals
missed. After a receive that did not, nothing comes until a signal is sent, nor does it before the
first signal since subscribing. The receivers that are counted are those that listen. -/
theorem answers_run (es : List Event) :
    (∀ i ds, es.count .subscribe = i → .receive i ∉ ds → .drop i ∉ ds →
      answer (es ++ .subscribe :: ds) i = .ofBehind (ds.count .trigger)) ∧
    (∀ i ds, Listens es i → .receive i ∉ ds → .drop i ∉ ds →
      answer (es ++ .receive i :: ds) i =
        .ofBehind ((answer es i).kept + ds.count .trigger)) ∧
    (∀ i ds, (answer es i).kept = 0 → .trigger ∉ ds → answer (es ++ .receive i :: ds) i = .empty) ∧
    (∀ i ds, es.count .subscribe = i → .trigger ∉ ds →
      answer (es ++ .subscribe :: ds) i = .empty) ∧
    (run {} es).receiverCount = {i | Listens es i}.ncard := by
  have hsound := sound_run es
  refine ⟨?_, ?_, ?_, ?_, receiverCount_run es⟩
  · intro i ds hi hr hd
    obtain ⟨hlistens, hbehind⟩ := behind_subscribe hi
    rw [answer_eq, run_append, run_cons, behind_run (hsound.step _) hlistens hr hd, hbehind,
      Nat.zero_add]
  · intro i ds hl hr hd
    have hstep : ((run {} es).step (.receive i)).behind i = (answer es i).kept :=
      (behind_poll hsound i).trans (by rw [← answer_eq])
    have hlistens : (((run {} es).step (.receive i)).past? i).isSome :=
      (isSome_past?_step hsound _ i).mpr (Or.inr ⟨(listens_iff es i).mp hl, by simp⟩)
    rw [answer_eq, run_append, run_cons, behind_run (hsound.step _) hlistens hr hd, hstep]
  · intro i ds hk ht
    have hstep : ((run {} es).step (.receive i)).behind i = 0 :=
      (behind_poll hsound i).trans (by rw [← answer_eq, hk])
    rw [answer_eq, run_append, run_cons, behind_run_of_not_mem (hsound.step _) hstep ht]
    rfl
  · intro i ds hi ht
    obtain ⟨-, hbehind⟩ := behind_subscribe hi
    rw [answer_eq, run_append, run_cons, behind_run_of_not_mem (hsound.step _) hbehind ht]
    rfl

/-- Two receivers, of which the second comes after the first signal and is dropped. -/
theorem answers_run_two :
    answer [.subscribe, .trigger, .subscribe] 0 = .fired ∧
    answer [.subscribe, .trigger, .subscribe] 1 = .empty ∧
    answer [.subscribe, .trigger, .subscribe, .receive 0, .drop 1] 0 = .empty ∧
    answer [.subscribe, .trigger, .receive 0, .trigger, .trigger, .trigger] 0 = .lagged 2 ∧
    (run {} [.subscribe, .trigger, .subscribe, .receive 0, .drop 1]).receiverCount =
      {i | Listens [.subscribe, .trigger, .subscribe, .receive 0, .drop 1] i}.ncard := by
  have hlistens : Listens [.subscribe, .trigger] 0 := ⟨[], [.trigger], rfl, rfl, by simp⟩
  obtain ⟨hfirst, -, -, -, -⟩ := answers_run []
  obtain ⟨-, hnext, -, hnew, -⟩ := answers_run [.subscribe, .trigger]
  obtain ⟨-, -, hquiet, -, -⟩ := answers_run [.subscribe, .trigger, .subscribe]
  obtain ⟨-, -, -, -, hcount⟩ := answers_run [.subscribe, .trigger, .subscribe, .receive 0, .drop 1]
  exact ⟨hfirst 0 [.trigger, .subscribe] rfl (by simp) (by simp), hnew 1 [] rfl (by simp),
    hquiet 0 [.drop 1] rfl (by simp),
    hnext 0 [.trigger, .trigger, .trigger] hlistens (by simp) (by simp), hcount⟩

/-- **A receiver that falls behind** first learns that it missed a signal, and gets one then. -/
theorem answer_after_two_triggers :
    Listens [.subscribe, .trigger, .trigger] 0 ∧
    answer [.subscribe, .trigger, .trigger] 0 = .lagged 1 ∧
    answer [.subscribe, .trigger, .trigger, .receive 0] 0 = .fired :=
  ⟨⟨[], [.trigger, .trigger], rfl, rfl, by simp⟩, rfl, rfl⟩

end Broadcast

end PathRouter
