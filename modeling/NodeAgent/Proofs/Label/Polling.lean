import Mathlib.Data.List.Destutter
import NodeAgent.Label.Watch

/-!
# What a watch does over time

A watch looks at the label file tick after tick.  What it does is a fold over the ticks: a text that
differs from the one applied last in more than the case of letters is applied, and becomes the one applied
last when all calls succeed; the first call that fails ends it all.

The texts that are applied are therefore those that are left of all texts when each one that repeats the
one before is dropped.

## Main definitions

* `Tick`: what a look at the file finds, and how the coordinator answers.
* `Watch.Rests`, `Watch.Runs`: a watch until it makes no more calls, and over many ticks.
* `changeCalls`, `Tick.plan`, `Tick.made`: the calls that apply a text, and those of them that are made.
* `Polling`, `Polling.tick`: how far a watch has come, and what a tick does to that.
* `Polling.changes`: the texts that are applied.

## Main results

* `Polling.runs_iff`: the runs of a watch are the fold.
* `Polling.exists_applied`: which texts are applied.
* `Polling.exists_failure`: how a watch fails.
* `Polling.foldl_tick_of_repeats`: nothing happens while the file stays the same.
* `polling_applies_changes_once`: what a watch does over time.
-/

namespace NodeAgent

/-- **A tick of a watch**: what a look at the label file finds, and how the coordinator answers the calls
that follow.  At every tick it may answer in another way. -/
structure Tick where
  reading : Except SystemError String
  answer : LabelCall → LabelReply

namespace Tick

/-- Whether a call succeeds. -/
def grants (t : Tick) (call : LabelCall) : Bool :=
  (t.answer call).isOk

/-- The labels that the coordinator reports, if it does. -/
def reported (t : Tick) : LabelSet :=
  (t.answer .get).toOption.getD .empty

/-- **The calls that are made of a plan**: those that succeed, up to the first that fails, which is
made too. -/
def made (t : Tick) (plan : List LabelCall) : List LabelCall :=
  plan.takeWhile t.grants ++ (plan.find? (!t.grants ·)).toList

end Tick

namespace Watch

/-- **A watch comes to rest**: its calls are answered until it makes no more. -/
inductive Rests (answer : LabelCall → LabelReply) :
    Watch × Option LabelCall → List LabelCall → Watch → Prop
  | quiet (w : Watch) : Rests answer (w, none) [] w
  | answered {w after : Watch} {call : LabelCall} {calls : List LabelCall}
      (h : Rests answer (w.hear (answer call)) calls after) :
      Rests answer (w, some call) (call :: calls) after

/-- **A run of a watch** over ticks, with the calls that it makes.  It comes to rest before the next
tick. -/
inductive Runs (static : LabelSet) : Watch → List Tick → List LabelCall → Watch → Prop
  | nil (w : Watch) : Runs static w [] [] w
  | cons {w between after : Watch} {t : Tick} {ticks : List Tick} {calls later : List LabelCall}
      (head : Rests t.answer (w.look static t.reading) calls between)
      (tail : Runs static between ticks later after) :
      Runs static w (t :: ticks) (calls ++ later) after

end Watch

/-- **The calls that apply a text**: the labels are asked for, those that the coordinator reports are
taken away, and those that are set or in the text are given.  The label that the coordinator manages stays
out of it, and nothing is taken or given when there is nothing. -/
def changeCalls (static : LabelSet) (contents : String) (reported : LabelSet) : List LabelCall :=
  let present := reported.withoutManaged
  let wanted := (static.union (.parse contents)).withoutManaged
  .get :: ((if present.isEmpty then [] else [.remove present]) ++
    if wanted.isEmpty then [] else [.add wanted])

/-- The calls that apply the text which a tick finds. -/
def Tick.plan (static : LabelSet) (t : Tick) : List LabelCall :=
  match t.reading with
  | .ok contents => changeCalls static contents t.reported
  | .error _ => []

/-- **How far a watch has come.** -/
structure Polling where
  /-- The text that was applied last. -/
  baseline : Option String
  /-- Whether a call failed.  The watch then asks for a restart and looks no more. -/
  failed : Bool := false
  /-- The calls so far. -/
  calls : List LabelCall := []

namespace Polling

/-- The watch that has come so far. -/
def watch (p : Polling) : Watch :=
  if p.failed then .stuck else .idle p.baseline

/-- Whether a text says what was applied last. -/
def repeats (p : Polling) (contents : String) : Bool :=
  p.baseline.any (sameLabels · contents)

/-- The text that a tick finds is applied, unless a call fails. -/
def attempt (static : LabelSet) (p : Polling) (t : Tick) (contents : String) : Polling :=
  let plan := t.plan static
  if plan.all t.grants then { p with baseline := some contents, calls := p.calls ++ plan }
  else { p with failed := true, calls := p.calls ++ t.made plan }

/-- **What a tick does.** -/
def tick (static : LabelSet) (p : Polling) (t : Tick) : Polling :=
  match p.failed, t.reading with
  | false, .ok contents => if p.repeats contents then p else p.attempt static t contents
  | _, _ => p

/-- The texts that are applied one after the other, the one applied last before them in front. -/
def changes (baseline : Option String) (texts : List String) : List String :=
  (baseline.toList ++ texts).destutter fun a b => sameLabels a b = false

end Polling

/-- The texts that a watch finds. -/
def textsOf (ticks : List Tick) : List String :=
  ticks.filterMap (·.reading.toOption)

/-! ## Calls one after the other -/

namespace LabelDialogue

/-- The dialogue of calls that are made as long as all succeed. -/
def ofCalls : List LabelCall → LabelDialogue
  | [] => .done (.ok ())
  | call :: calls => .ask call (afterSuccess (ofCalls calls))

theorem swapLabels_eq_ofCalls (present wanted : LabelSet) :
    swapLabels present wanted = ofCalls ((if present.isEmpty then [] else [.remove present]) ++
      if wanted.isEmpty then [] else [.add wanted]) := by
  unfold swapLabels giveLabels
  split
  · split <;> rfl
  · split <;> rfl

end LabelDialogue

open LabelDialogue

namespace Tick

variable {t : Tick} {call : LabelCall} {plan : List LabelCall}

theorem made_cons_of_grants (h : t.grants call = true) : t.made (call :: plan) = call :: t.made plan := by
  simp [made, h]

theorem made_cons_of_not_grants (h : t.grants call = false) : t.made (call :: plan) = [call] := by
  simp [made, h]

/-- When all calls succeed, they are all made. -/
theorem made_of_grants (h : plan.all t.grants = true) : t.made plan = plan := by
  induction plan with
  | nil => rfl
  | cons call plan ih =>
    rw [List.all_cons, Bool.and_eq_true] at h
    rw [made_cons_of_grants h.1, ih h.2]

theorem answer_of_grants (h : t.grants call = true) : ∃ labels, t.answer call = .ok labels := by
  cases hanswer : t.answer call with
  | ok labels => exact ⟨labels, rfl⟩
  | error cause =>
    rw [grants, hanswer] at h
    cases h

theorem answer_of_not_grants (h : t.grants call = false) : ∃ cause, t.answer call = .error cause := by
  cases hanswer : t.answer call with
  | ok labels =>
    rw [grants, hanswer] at h
    cases h
  | error cause => exact ⟨cause, rfl⟩

end Tick

namespace Watch

/-- A watch comes to rest in one way. -/
theorem Rests.unique {answer : LabelCall → LabelReply} {s : Watch × Option LabelCall}
    {calls calls' : List LabelCall} {w w' : Watch} (h : Rests answer s calls w)
    (h' : Rests answer s calls' w') : calls' = calls ∧ w' = w := by
  -- Either it makes no call, or the answer settles how it goes on.
  induction h generalizing calls' w' with
  | quiet w =>
    cases h'
    exact ⟨rfl, rfl⟩
  | answered _ ih =>
    cases h' with
    | answered h' =>
      obtain ⟨rfl, rfl⟩ := ih h'
      exact ⟨rfl, rfl⟩

theorem Runs.unique {static : LabelSet} {ticks : List Tick} {calls calls' : List LabelCall}
    {w after after' : Watch} (h : Runs static w ticks calls after)
    (h' : Runs static w ticks calls' after') : calls' = calls ∧ after' = after := by
  induction h generalizing calls' after' with
  | nil w =>
    cases h'
    exact ⟨rfl, rfl⟩
  | cons head _ ih =>
    cases h' with
    | cons head' tail' =>
      obtain ⟨rfl, rfl⟩ := head.unique head'
      obtain ⟨rfl, rfl⟩ := ih tail'
      exact ⟨rfl, rfl⟩

/-- **A watch makes the calls of a plan** up to the first that fails.  When all succeed, the text is
applied. -/
theorem rests_proceed_ofCalls (t : Tick) (contents : String) (plan : List LabelCall) :
    Rests t.answer (proceed contents (ofCalls plan)) (t.made plan)
      (if plan.all t.grants then idle (some contents) else stuck) := by
  induction plan with
  | nil => exact .quiet _
  | cons call plan ih =>
    cases hgrants : t.grants call with
    | true =>
      obtain ⟨labels, hanswer⟩ := Tick.answer_of_grants hgrants
      rw [Tick.made_cons_of_grants hgrants, List.all_cons, hgrants, Bool.true_and]
      refine .answered ?_
      rw [hanswer]
      exact ih
    | false =>
      obtain ⟨cause, hanswer⟩ := Tick.answer_of_not_grants hgrants
      rw [Tick.made_cons_of_not_grants hgrants, List.all_cons, hgrants, Bool.false_and]
      refine .answered ?_
      rw [hanswer]
      exact .quiet stuck

/-- **A watch makes the calls that apply a text**, up to the first that fails. -/
theorem rests_softUpdate (t : Tick) (static : LabelSet) (contents : String) :
    Rests t.answer (proceed contents (softUpdate static contents))
      (t.made (changeCalls static contents t.reported))
      (if (changeCalls static contents t.reported).all t.grants then idle (some contents)
        else stuck) := by
  cases hgrants : t.grants .get with
  | true =>
    obtain ⟨held, hanswer⟩ := Tick.answer_of_grants hgrants
    have hreported : t.reported = held := by
      rw [Tick.reported, hanswer]
      rfl
    rw [changeCalls, Tick.made_cons_of_grants hgrants, List.all_cons, hgrants, Bool.true_and,
      hreported]
    refine .answered ?_
    -- Only now is it known how the dialogue goes on: it depends on the answer.
    rw [hanswer]
    change Rests t.answer
      (proceed contents (swapLabels held.withoutManaged (desiredLabels static contents))) _ _
    rw [swapLabels_eq_ofCalls]
    exact rests_proceed_ofCalls t contents _
  | false =>
    obtain ⟨cause, hanswer⟩ := Tick.answer_of_not_grants hgrants
    rw [changeCalls, Tick.made_cons_of_not_grants hgrants, List.all_cons, hgrants, Bool.false_and]
    refine .answered ?_
    rw [hanswer]
    exact .quiet stuck

end Watch

/-! ## The fold -/

namespace Polling

variable {static : LabelSet} {p : Polling} {t : Tick} {ticks : List Tick} {contents : String}

/-- **What a tick does**: nothing, or the text that it finds is new and an attempt is made. -/
theorem tick_cases (static : LabelSet) (p : Polling) (t : Tick) :
    (p.tick static t = p ∧ p.watch.news? t.reading = none ∧
      (p.failed = false → ∀ contents, t.reading = .ok contents → p.repeats contents = true)) ∨
    ∃ contents, p.failed = false ∧ t.reading = .ok contents ∧ p.repeats contents = false ∧
      p.watch.news? t.reading = some contents ∧ p.tick static t = p.attempt static t contents := by
  cases hfailed : p.failed with
  | true => exact .inl ⟨by rw [tick, hfailed], by rw [watch, hfailed]; rfl, fun h => nomatch h⟩
  | false =>
    have hwatch : p.watch = .idle p.baseline := by rw [watch, hfailed]; rfl
    cases hreading : t.reading with
    | error cause =>
      exact .inl ⟨by rw [tick, hfailed, hreading], by rw [hwatch]; rfl, fun _ _ h => nomatch h⟩
    | ok contents =>
      have htick : p.tick static t =
          if p.repeats contents then p else p.attempt static t contents := by
        rw [tick, hfailed, hreading]
      have hnews : p.watch.news? (.ok contents) = (some contents).filter (!p.repeats ·) := by
        rw [hwatch]
        rfl
      cases hrepeats : p.repeats contents with
      | true =>
        rw [hrepeats] at htick
        rw [Option.filter_some_neg (by rw [hrepeats]; decide)] at hnews
        exact .inl ⟨htick, hnews, fun _ _ h => Except.ok.inj h ▸ hrepeats⟩
      | false =>
        rw [hrepeats] at htick
        rw [Option.filter_some_pos (by rw [hrepeats]; rfl)] at hnews
        exact .inr ⟨contents, rfl, rfl, hrepeats, hnews, htick⟩

theorem attempt_of_grants (h : (t.plan static).all t.grants = true) :
    p.attempt static t contents =
      { p with baseline := some contents, calls := p.calls ++ t.plan static } := by
  rw [attempt, h]
  rfl

theorem attempt_of_not_grants (h : (t.plan static).all t.grants = false) :
    p.attempt static t contents =
      { p with failed := true, calls := p.calls ++ t.made (t.plan static) } := by
  rw [attempt, h]
  rfl

/-- **A tick of the fold is a tick of the watch.** -/
theorem exists_rests (static : LabelSet) (p : Polling) (t : Tick) :
    ∃ calls, Watch.Rests t.answer (p.watch.look static t.reading) calls (p.tick static t).watch ∧
      (p.tick static t).calls = p.calls ++ calls := by
  obtain ⟨hsame, hquiet, -⟩ | ⟨contents, hidle, hreading, -, hnews, htick⟩ := tick_cases static p t
  · refine ⟨[], ?_, by rw [hsame, List.append_nil]⟩
    rw [hsame, Watch.look, hquiet]
    exact .quiet p.watch
  · have hplan : changeCalls static contents t.reported = t.plan static := by
      rw [Tick.plan, hreading]
    have hrests := Watch.rests_softUpdate t static contents
    rw [hplan] at hrests
    refine ⟨t.made (t.plan static), ?_, ?_⟩
    · rw [Watch.look, hnews, htick]
      cases hall : (t.plan static).all t.grants with
      | true =>
        rw [hall] at hrests
        rw [attempt_of_grants hall, watch, hidle]
        exact hrests
      | false =>
        rw [hall] at hrests
        rw [attempt_of_not_grants hall]
        exact hrests
    · rw [htick]
      cases hall : (t.plan static).all t.grants with
      | true => rw [attempt_of_grants hall, Tick.made_of_grants hall]
      | false => rw [attempt_of_not_grants hall]

theorem exists_runs (static : LabelSet) (p : Polling) (ticks : List Tick) :
    ∃ calls, Watch.Runs static p.watch ticks calls (ticks.foldl (tick static) p).watch ∧
      (ticks.foldl (tick static) p).calls = p.calls ++ calls := by
  -- What a watch does next depends only on how far it has come.
  induction ticks generalizing p with
  | nil => exact ⟨[], .nil p.watch, (List.append_nil p.calls).symm⟩
  | cons t ticks ih =>
    obtain ⟨calls, hhead, hcalls⟩ := exists_rests static p t
    obtain ⟨later, htail, hlater⟩ := ih (p.tick static t)
    refine ⟨calls ++ later, .cons hhead htail, ?_⟩
    rw [List.foldl_cons, hlater, hcalls, List.append_assoc]

/-- **The runs of a watch are the fold.** -/
theorem runs_iff {calls : List LabelCall} {w : Watch} :
    Watch.Runs static p.watch ticks calls w ↔
      (ticks.foldl (tick static) p).calls = p.calls ++ calls ∧
        w = (ticks.foldl (tick static) p).watch := by
  obtain ⟨made, hruns, hmade⟩ := exists_runs static p ticks
  constructor
  · intro h
    obtain ⟨rfl, rfl⟩ := hruns.unique h
    exact ⟨hmade, rfl⟩
  · rintro ⟨hcalls, rfl⟩
    obtain rfl : made = calls := List.append_cancel_left (hmade.symm.trans hcalls)
    exact hruns

/-- **Nothing happens while the file stays the same**, but for the case of letters. -/
theorem foldl_tick_of_repeats (h : ∀ contents ∈ textsOf ticks, p.repeats contents = true) :
    ticks.foldl (tick static) p = p := by
  induction ticks with
  | nil => rfl
  | cons t ticks ih =>
    have hlater : ∀ contents ∈ textsOf ticks, p.repeats contents = true := fun contents hmem =>
      h contents (List.mem_filterMap.mpr ((List.mem_filterMap.mp hmem).imp fun _ ht =>
        ⟨List.mem_cons_of_mem t ht.1, ht.2⟩))
    obtain ⟨hsame, -⟩ | ⟨contents, -, hreading, hnew, -⟩ := tick_cases static p t
    · rw [List.foldl_cons, hsame, ih hlater]
    · have hmem : contents ∈ textsOf (t :: ticks) :=
        List.mem_filterMap.mpr ⟨t, List.mem_cons_self, by rw [hreading]; rfl⟩
      rw [h contents hmem] at hnew
      cases hnew

/-- Nothing happens after a failure. -/
theorem foldl_tick_of_failed (h : p.failed = true) : ticks.foldl (tick static) p = p := by
  induction ticks with
  | nil => rfl
  | cons t ticks ih =>
    have hsame : p.tick static t = p := by rw [tick, h]
    rw [List.foldl_cons, hsame, ih]

/-- **The tick at which a watch fails** makes the last calls, and the text applied last stays. -/
theorem exists_failure (hidle : p.failed = false)
    (h : (ticks.foldl (tick static) p).failed = true) :
    ∃ earlier t later, ticks = earlier ++ t :: later ∧
      (earlier.foldl (tick static) p).failed = false ∧ (t.plan static).all t.grants = false ∧
      ticks.foldl (tick static) p = { earlier.foldl (tick static) p with
        failed := true
        calls := (earlier.foldl (tick static) p).calls ++ t.made (t.plan static) } := by
  induction ticks generalizing p with
  | nil => exact absurd h (by rw [List.foldl_nil, hidle]; exact Bool.false_ne_true)
  | cons t ticks ih =>
    cases hnext : (p.tick static t).failed with
    | false =>
      obtain ⟨earlier, failing, later, rfl, hearlier, hrefused, hfold⟩ := ih hnext h
      exact ⟨t :: earlier, failing, later, rfl, hearlier, hrefused, hfold⟩
    | true =>
      -- The fold stays where it is from here on.
      have hfold : (t :: ticks).foldl (tick static) p = p.tick static t := foldl_tick_of_failed hnext
      obtain ⟨hsame, -⟩ | ⟨contents, -, -, -, -, htick⟩ := tick_cases static p t
      · rw [hsame, hidle] at hnext
        cases hnext
      · cases hall : (t.plan static).all t.grants with
        | true =>
          rw [htick, attempt_of_grants hall] at hnext
          exact absurd hnext (by rw [hidle]; exact Bool.false_ne_true)
        | false =>
          refine ⟨[], t, ticks, rfl, hidle, hall, ?_⟩
          rw [hfold, htick, attempt_of_not_grants hall]
          rfl

/-! ## Which texts are applied -/

theorem changes_of_repeats (h : p.repeats contents = true) (texts : List String) :
    changes p.baseline (contents :: texts) = changes p.baseline texts := by
  cases hbaseline : p.baseline with
  | none =>
    rw [repeats, hbaseline] at h
    cases h
  | some last =>
    rw [repeats, hbaseline, Option.any_some] at h
    have hsame : ¬sameLabels last contents = false := fun hdiffers =>
      Bool.false_ne_true (hdiffers.symm.trans h)
    exact List.destutter'_cons_neg (R := fun a b => sameLabels a b = false) texts hsame

theorem changes_of_not_repeats (h : p.repeats contents = false) (texts : List String) :
    changes p.baseline (contents :: texts) = p.baseline.toList ++ changes (some contents) texts := by
  cases hbaseline : p.baseline with
  | none => rfl
  | some last =>
    rw [repeats, hbaseline, Option.any_some] at h
    exact List.destutter'_cons_pos (R := fun a b => sameLabels a b = false) texts h

theorem changes_some_ne_nil (contents : String) (texts : List String) :
    changes (some contents) texts ≠ [] :=
  List.destutter'_ne_nil texts fun a b => sameLabels a b = false

/-- **Which texts are applied**: those that are left of all texts when each one that repeats the one
before is dropped.  Each is applied at the tick that finds it. -/
theorem exists_applied (h : (ticks.foldl (tick static) p).failed = false) :
    ∃ applied, applied.Sublist ticks ∧ (∀ t ∈ applied, (t.plan static).all t.grants = true) ∧
      p.baseline.toList ++ textsOf applied = changes p.baseline (textsOf ticks) ∧
      ticks.foldl (tick static) p = { p with
        baseline := (changes p.baseline (textsOf ticks)).getLast?
        calls := p.calls ++ applied.flatMap (Tick.plan static) } := by
  induction ticks generalizing p with
  | nil =>
    have hchanges : changes p.baseline (textsOf []) = p.baseline.toList := by
      cases p.baseline <;> rfl
    refine ⟨[], .slnil, fun t h => (List.not_mem_nil h).elim, ?_, ?_⟩
    · rw [hchanges]
      exact List.append_nil _
    · have hlast : p.baseline.toList.getLast? = p.baseline := by
        cases p.baseline <;> rfl
      rw [hchanges, hlast, List.flatMap_nil, List.append_nil]
      rfl
  | cons t ticks ih =>
    -- A watch that had failed would have stayed so.
    have hidle : p.failed = false := by
      cases hfailed : p.failed with
      | false => rfl
      | true =>
        rw [foldl_tick_of_failed hfailed] at h
        exact hfailed.symm.trans h
    obtain ⟨applied, hsub, hgrants, htexts, hfold⟩ := ih h
    rw [List.foldl_cons, hfold]
    obtain ⟨hsame, -, hrepeats⟩ | ⟨contents, -, hreading, hnew, -, htick⟩ := tick_cases static p t
    · -- The tick finds nothing, or a text that is dropped.
      have hchanges : changes p.baseline (textsOf (t :: ticks)) =
          changes p.baseline (textsOf ticks) := by
        cases hreading : t.reading with
        | error cause => rw [textsOf, List.filterMap_cons, hreading]; rfl
        | ok contents =>
          rw [textsOf, List.filterMap_cons, hreading]
          exact changes_of_repeats (hrepeats hidle contents hreading) (textsOf ticks)
      rw [hsame] at htexts ⊢
      rw [hchanges]
      exact ⟨applied, hsub.cons t, hgrants, htexts, rfl⟩
    · -- The tick finds a text that is kept, and it is applied.
      have hfound : ∀ ticks, textsOf (t :: ticks) = contents :: textsOf ticks := fun ticks => by
        rw [textsOf, List.filterMap_cons, hreading]
        rfl
      have hall : (t.plan static).all t.grants = true := by
        cases hall : (t.plan static).all t.grants with
        | true => rfl
        | false =>
          have hfailed : (p.tick static t).failed = true := by
            rw [htick, attempt_of_not_grants hall]
          rw [List.foldl_cons, foldl_tick_of_failed hfailed] at h
          exact h.symm.trans hfailed
      rw [htick, attempt_of_grants hall] at htexts ⊢
      rw [hfound ticks, changes_of_not_repeats hnew (textsOf ticks)]
      refine ⟨t :: applied, hsub.cons_cons t, ?_, ?_, ?_⟩
      · exact List.forall_mem_cons.mpr ⟨hall, hgrants⟩
      · rw [hfound applied, ← htexts]
        rfl
      · obtain ⟨last, hlast⟩ := Option.ne_none_iff_exists'.mp
          (mt List.getLast?_eq_none_iff.mp
            (changes_some_ne_nil contents (textsOf ticks)))
        rw [List.getLast?_append, hlast, List.flatMap_cons, List.append_assoc]
        rfl

end Polling

/-- **What a watch does over time.**  Its runs are the fold over the ticks.  As long as no call fails, the
texts that are applied are those that do not repeat the one applied before them, each at the tick that
finds it and with all its calls, and the last of them is the one that is remembered.  The first call that
fails is the last call, what was applied last is still remembered, and a restart is asked for.  While the
file stays the same, but for the case of letters, nothing happens. -/
theorem polling_applies_changes_once (static : LabelSet) (baseline : Option String)
    (ticks : List Tick) :
    let p := ticks.foldl (Polling.tick static) { baseline }
    (∀ calls w, Watch.Runs static (.idle baseline) ticks calls w ↔ calls = p.calls ∧ w = p.watch) ∧
    (p.failed = false → ∃ applied, applied.Sublist ticks ∧
      (∀ t ∈ applied, (t.plan static).all t.grants = true) ∧
      baseline.toList ++ textsOf applied = Polling.changes baseline (textsOf ticks) ∧
      p.calls = applied.flatMap (Tick.plan static) ∧
      p.baseline = (Polling.changes baseline (textsOf ticks)).getLast?) ∧
    (p.failed = true → p.watch = .stuck ∧ ∃ earlier t later, ticks = earlier ++ t :: later ∧
      let q := earlier.foldl (Polling.tick static) { baseline }
      q.failed = false ∧ (t.plan static).all t.grants = false ∧
        p.calls = q.calls ++ t.made (t.plan static) ∧ p.baseline = q.baseline) ∧
    ∀ later, (∀ contents ∈ textsOf later, p.repeats contents = true) →
      later.foldl (Polling.tick static) p = p := by
  intro p
  refine ⟨fun calls w => ?_, fun hidle => ?_, fun hfailed => ?_, fun later => ?_⟩
  · have hruns : Watch.Runs static (.idle baseline) ticks calls w ↔
        p.calls = [] ++ calls ∧ w = p.watch := Polling.runs_iff (p := { baseline })
    rw [hruns, List.nil_append, eq_comm]
  · obtain ⟨applied, hsub, hgrants, htexts, hfold⟩ := Polling.exists_applied hidle
    refine ⟨applied, hsub, hgrants, htexts, ?_, ?_⟩
    · exact (congrArg Polling.calls hfold).trans (List.nil_append _)
    · exact congrArg Polling.baseline hfold
  · obtain ⟨earlier, t, later, hticks, hidle, hrefused, hfold⟩ := Polling.exists_failure rfl hfailed
    refine ⟨by rw [Polling.watch, hfailed]; rfl, earlier, t, later, hticks, hidle, hrefused, ?_, ?_⟩
    · exact congrArg Polling.calls hfold
    · exact (congrArg Polling.baseline hfold).trans rfl
  · exact Polling.foldl_tick_of_repeats

/-- A text that comes back later is applied again; one that differs in the case of letters is not. -/
example : Polling.changes (some "linux") ["Linux", "docker", "Docker", "linux"] =
    ["linux", "docker", "linux"] := by
  decide

end NodeAgent
