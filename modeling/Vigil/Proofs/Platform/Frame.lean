import Vigil.Proofs.Platform.Routing

/-!
# Platform — what recording and arming leave alone

Whatever is recorded or kept ready for faults changes files and captures, and logs events
(`Platform.Records`): the registries and clocks, the hook with its observers and the ways of signals
stay as they are.  Of the captures it only changes those that it names, and of these only what they
count.  Interceptors that are armed or disarmed change the hook with its observers and the ways of
signals (`Platform.Rewires`), and nothing else.

* `Records.record`, `Records.recordSignal` and the like: the operations that change no more.
* `captures_record`, `captures_recordSignal`: what they change of the captures.
* `rewires_arm`, `rewires_disarm` and the like: what interceptors change.
-/

namespace Vigil

/-- Only files and captures are changed, and events logged. -/
def Platform.Records (p p' : Platform) : Prop :=
  p' = { p with files := p'.files, captures := p'.captures, events := p'.events }

namespace Platform.Records
variable {p p₁ p' : Platform}

theorem refl (p : Platform) : p.Records p := rfl

theorem trans (h₁ : p.Records p₁) (h₂ : p₁.Records p') : p.Records p' := by
  rw [Records, h₁] at h₂
  exact h₂

theorem routing (h : p.Records p') : p'.routing = p.routing := by
  rw [h]
  rfl

theorem registries (h : p.Records p') : p'.registries = p.registries := by
  rw [h]

theorem now (h : p.Records p') : p'.now = p.now := by
  rw [h]

theorem counters (h : p.Records p') : p'.armed = p.armed ∧ p'.disarmed = p.disarmed := by
  rw [h]
  exact ⟨rfl, rfl⟩

theorem answers (h : p.Records p') : p'.answers = p.answers := by
  rw [h]

theorem disposition (h : p.Records p') : p'.disposition = p.disposition := by
  rw [h]

theorem note (p : Platform) (events : List Notice) : p.Records (p.note events) := rfl

theorem addCapture (p : Platform) (registry : Nat) (logPath : String) :
    p.Records (p.addCapture registry logPath) := rfl

theorem record (p : Platform) (capture : Nat) (fault : Fault) :
    p.Records (p.record capture fault).1 := by
  rw [Platform.record]
  split <;> rfl

theorem recordAll (p : Platform) (captures : List Nat) (fault : Fault) :
    p.Records (p.recordAll captures fault) := by
  rw [Platform.recordAll]
  induction captures generalizing p with
  | nil => exact refl p
  | cons capture captures ih => exact (record p capture fault).trans (ih _)

theorem recordSignal (p : Platform) (capture : Nat) (fault : Fault) :
    p.Records (p.recordSignal capture fault).1 := by
  rw [Platform.recordSignal]
  split
  next => rfl
  next =>
    split
    next => rfl
    next => split <;> rfl

end Platform.Records

theorem Platform.routing_panic (p : Platform) (message thread : Option String) :
    (p.panic message thread).routing = p.routing :=
  (Platform.Records.recordAll p _ _).routing

/-! ### The captures -/

namespace Platform
variable {p : Platform} {capture i : Nat} {c : Fault.Capture} {fault : Fault}

/-- So many more faults were recorded with a capture. -/
def counted (n : Nat) (c : Fault.Capture) : Fault.Capture := { c with recorded := c.recorded + n }

theorem captures_record (p : Platform) (capture i : Nat) (fault : Fault) :
    (p.record capture fault).1.captures[i]? =
      p.captures[i]?.map (counted (if i = capture then 1 else 0)) := by
  have hsame : ∀ o : Option Fault.Capture, o.map (counted 0) = o := fun o => by
    cases o <;> rfl
  rw [record]
  split
  next hnone =>
    split
    next h => rw [h, hnone]; rfl
    next => exact (hsame _).symm
  next c hc =>
    simp only [note]
    split
    next h =>
      subst h
      rw [List.getElem?_set_self (List.getElem?_eq_some_iff.1 hc).1, hc]
      rfl
    next h => rw [List.getElem?_set_ne (Ne.symm h), hsame]

theorem recordAll_append (p : Platform) (is js : List Nat) (fault : Fault) :
    p.recordAll (is ++ js) fault = (p.recordAll is fault).recordAll js fault :=
  List.foldl_append

/-- A fault is recorded several times with one capture. -/
theorem captures_recordAll (hc : p.captures[i]? = some c) (n : Nat) (fault : Fault) :
    (p.recordAll (List.replicate n i) fault).captures[i]? = some (counted n c) := by
  induction n generalizing p c with
  | zero => exact hc
  | succ n ih =>
      have hone : (p.record i fault).1.captures[i]? = some (counted 1 c) := by
        rw [captures_record, hc, if_pos rfl, Option.map_some]
      refine (ih hone).trans (congrArg some ?_)
      rw [counted, counted, counted, Nat.add_assoc, Nat.add_comm 1 n]

theorem length_record (p : Platform) (capture : Nat) (fault : Fault) :
    (p.record capture fault).1.captures.length = p.captures.length := by
  rw [record]
  split
  next => rfl
  next => exact List.length_set

/-- One more signal was handled with a capture, which only counts the first. -/
def afterSignal (c : Fault.Capture) : Fault.Capture := if c.signalled then c else c.signal

theorem captures_recordSignal (p : Platform) (capture i : Nat) (fault : Fault) :
    (p.recordSignal capture fault).1.captures[i]? =
      if i = capture then p.captures[i]?.map afterSignal else p.captures[i]? := by
  rw [recordSignal]
  split
  next hnone =>
    split
    next h => rw [h, hnone]; rfl
    next => rfl
  next c hc =>
    split
    next hs =>
      split
      next h => rw [h, hc, Option.map_some, afterSignal, if_pos hs]
      next => rfl
    next hs =>
      have hset : (p.captures.set capture c.signal)[i]? =
          if i = capture then p.captures[i]?.map afterSignal else p.captures[i]? := by
        split
        next h =>
          rw [h, List.getElem?_set_self (List.getElem?_eq_some_iff.1 hc).1, hc, Option.map_some,
            afterSignal, if_neg hs]
        next h => rw [List.getElem?_set_ne (Ne.symm h)]
      dsimp only
      split <;> exact hset

theorem length_recordSignal (p : Platform) (capture : Nat) (fault : Fault) :
    (p.recordSignal capture fault).1.captures.length = p.captures.length := by
  rw [recordSignal]
  split
  next => rfl
  next =>
    split
    next => rfl
    next =>
      dsimp only
      split <;> exact List.length_set

end Platform

/-! ### Interceptors -/

/-- Only the hook, its observers and the ways of signals are changed, and interceptors counted. -/
def Platform.Rewires (p p' : Platform) : Prop :=
  p' = { p with
    hook := p'.hook, observers := p'.observers, nextObserver := p'.nextObserver
    disposition := p'.disposition, answers := p'.answers, target := p'.target
    armed := p'.armed, disarmed := p'.disarmed }

namespace Platform.Rewires
variable {p p₁ p' : Platform}

theorem refl (p : Platform) : p.Rewires p := rfl

theorem trans (h₁ : p.Rewires p₁) (h₂ : p₁.Rewires p') : p.Rewires p' := by
  rw [Rewires, h₁] at h₂
  exact h₂

theorem registries (h : p.Rewires p') : p'.registries = p.registries := by
  rw [h]

theorem now (h : p.Rewires p') : p'.now = p.now := by
  rw [h]

end Platform.Rewires

namespace Interceptor
variable (p : Platform)

theorem rewires_of_redirects {p p' : Platform} (h : p.Redirects p') : p.Rewires p' := by
  rw [h]
  rfl

theorem rewires_arm (i : Interceptor) (capture : Nat) : p.Rewires (i.arm capture p).2.1 := by
  cases i with
  | panicHook o =>
      simp only [arm, PanicObserver.arm]
      split <;> rfl
  | fatalSignals previous => exact rewires_of_redirects (redirects_arm previous capture p)
  | counting =>
      rw [arm]
      split <;> rfl

theorem rewires_disarm (i : Interceptor) : p.Rewires (i.disarm p).2 := by
  cases i with
  | panicHook o =>
      simp only [disarm, PanicObserver.disarm]
      split <;> rfl
  | fatalSignals previous => exact rewires_of_redirects (.releaseSignals p previous)
  | counting => rfl

theorem rewires_armAll (capture : Nat) (is : List Interceptor) :
    p.Rewires (armAll capture is p).2.1 := by
  induction is generalizing p with
  | nil => exact .refl p
  | cons i is ih =>
      have hi := rewires_arm p i capture
      rw [armAll]
      split
      next h => rw [h] at hi; exact hi
      next h => rw [h] at hi; exact hi.trans (ih _)

theorem rewires_disarmAll (is : List Interceptor) : p.Rewires (disarmAll is p).2 := by
  induction is generalizing p with
  | nil => exact .refl p
  | cons i is ih => exact (rewires_disarm p i).trans (ih _)

end Interceptor

end Vigil
