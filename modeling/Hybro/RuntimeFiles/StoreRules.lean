import Hybro.RuntimeFiles.Store

/-! # What the calls leave in the directory

A replacement that fails leaves the old contents or, after the rename, the new ones, and a call
that holds the lock ends with the contents that its checks give. `Kept` is what remains of the
old contents when the call raises.
-/

namespace Hybro.RuntimeFiles

open FailingSteps JsonDocument

variable {F : Type} {files : Files} {b : Prop}

/-! ## Replacing a file -/

/-- The steps of a replacement that come after the rename. -/
def afterRename : FileStep → Bool
  | .removeTemporary | .openDirectory | .syncDirectory | .closeDirectory => true
  | _ => false

/-- The old contents, or the new ones when a step after the rename has failed. -/
def Around (before after : Files) (label : FileStep) (directory : Directory) : Prop :=
  directory.files = before ∨ directory.files = after ∧ afterRename label = true

theorem touch_ends {A : Directory → Prop} {φ : FileStep → Directory → Prop} (label : FileStep)
    (h : ∀ directory, A directory → φ label directory) :
    Ends (Stood b A) (touch label) (fun _ => Stood b A) (Failed b .os φ) :=
  Ends.step (B := A) (fun _ hA => hA) h

theorem syncDirectory_ends (before after : Files) :
    Ends (Stood b fun directory => directory.files = after) replace.syncDirectory
      (fun _ => Stood b fun directory => directory.files = after)
      (Failed b .os (Around before after)) := by
  have hafter : ∀ label, afterRename label = true → ∀ directory : Directory,
      directory.files = after → Around before after label directory :=
    fun label hlabel directory hfiles => Or.inr ⟨hfiles, hlabel⟩
  unfold replace.syncDirectory
  refine Ends.bind (touch_ends _ (hafter _ rfl)) fun _ => ?_
  exact Ends.lastly_step (touch_ends _ (hafter _ rfl)) (fun _ h => h) (hafter _ rfl)
    fun _ _ h => h

theorem writeTemporary_ends (name : FileName) (data : Bytes) (before : Files) :
    Ends (Stood b fun directory => directory.files = before) (writeTemporary name data)
      (fun _ => Stood b fun directory => directory.files = before.set (some data) name)
      (Failed b .os (Around before (before.set (some data) name))) := by
  have hbefore : ∀ label (directory : Directory), directory.files = before →
      Around before (before.set (some data) name) label directory :=
    fun label directory hfiles => Or.inl hfiles
  have hwritten : ∀ label (directory : Directory),
      directory.files = before ∧ directory.temporary = some data →
      Around before (before.set (some data) name) label directory :=
    fun label directory h => hbefore label directory h.1
  unfold writeTemporary writing
  refine Ends.bind (Ends.step (B := fun directory => directory.files = before) (fun _ h => h)
    (hbefore _)) fun _ => ?_
  refine Ends.lastly_step (A := fun directory => directory.files = before.set (some data) name)
    ?_ (fun _ h => h) (fun _ h => Or.inr ⟨h, rfl⟩) fun _ _ h => h
  refine Ends.bind (touch_ends _ (hbefore _)) fun _ => ?_
  refine Ends.bind (R := fun _ => Stood b fun directory =>
    directory.files = before ∧ directory.temporary = some data) ?_ fun _ => ?_
  · refine Ends.lastly_step (A := fun directory => directory.files = before ∧
      directory.temporary = some data) ?_ (fun _ h => h) (hwritten _) fun _ _ h => h
    refine Ends.bind (Ends.step (B := fun directory => directory.files = before ∧
      directory.temporary = some data) (fun _ h => ⟨h, rfl⟩) (hbefore _)) fun _ => ?_
    refine Ends.bind (touch_ends _ (hwritten _)) fun _ => ?_
    exact touch_ends _ (hwritten _)
  · refine Ends.step (fun directory h => ?_) (hwritten _)
    dsimp only
    rw [h.1, h.2]

theorem replace_ends (name : FileName) (data : Option Bytes) (before : Files) :
    Ends (Stood b fun directory => directory.files = before) (replace name data)
      (fun _ => Stood b fun directory => directory.files = before.set data name)
      (Failed b .os (Around before (before.set data name))) := by
  cases data with
  | none =>
      refine Ends.bind (R := fun _ => Stood b fun directory =>
        directory.files = before.set none name) ?_ fun _ => syncDirectory_ends before _
      refine Ends.step (fun directory h => ?_) fun _ h => Or.inl h
      dsimp only
      rw [h]
  | some data =>
      exact Ends.bind (writeTemporary_ends name data before) fun _ => syncDirectory_ends before _

/-! ## Calls under the lock -/

/-- What a call that raises leaves: the old contents, unless one of these steps has failed, and
contents of this kind in any case. -/
structure Kept (late : FileStep → Bool) (W : Files → Prop) (files : Files)
    (w : World Directory FileStep) : Prop where
  restored : (∀ label, w.fault = .struck label → late label = false) → w.state.files = files
  always : W w.state.files

def Contents (files : Files) (w : World Directory FileStep) : Prop :=
  w.state.files = files

variable {α β : Type} {late : FileStep → Bool} {W : Files → Prop}
  {P : World Directory FileStep → Prop} {E : World Directory FileStep → Prop}

theorem Contents.kept (hold : W files) {w : World Directory FileStep} (h : Contents files w) :
    Kept late W files w := by
  refine ⟨fun _ => h, ?_⟩
  rw [h]
  exact hold

theorem stood_false {A : Directory → Prop} {w : World Directory FileStep} :
    Stood False A w ↔ A w.state := ⟨fun h => h.1, fun h => ⟨h, False.elim⟩⟩

theorem touch_contents (label : FileStep) :
    Ends (Contents files) (touch label) (fun _ => Contents files) fun _ => Contents files := by
  refine (touch_ends (A := fun directory => directory.files = files)
    (φ := fun _ directory => directory.files = files) label fun _ h => h).conseq
    (fun _ h => stood_false.mpr h) (fun _ _ h => stood_false.mp h) ?_
  rintro error w ⟨-, -, label, -, h⟩
  exact h

theorem touch_kept (label : FileStep) :
    Ends (Kept late W files) (touch label) (fun _ => Kept late W files)
      fun _ => Kept late W files := by
  intro w hkept
  unfold touch Steps.step
  cases hfault : w.fault with
  | none => exact ⟨fun h => hkept.restored fun label hlabel => h label (hfault ▸ hlabel), hkept.always⟩
  | struck other =>
      exact ⟨fun h => hkept.restored fun label hlabel => h label (hfault ▸ hlabel), hkept.always⟩
  | ahead n =>
      have hfiles : w.state.files = files := by
        refine hkept.restored fun label hlabel => ?_
        rw [hfault] at hlabel
        cases hlabel
      cases n <;> exact ⟨fun _ => hfiles, hkept.always⟩

theorem touch_late {R : Files → Prop} {label : FileStep} (hlate : late label = true)
    (hnew : ∀ after, R after → W after) :
    Ends (fun w => R w.state.files) (touch label) (fun _ w => R w.state.files)
      fun _ => Kept late W files := by
  refine (touch_ends (A := fun directory => R directory.files)
    (φ := fun failed directory => failed = label ∧ R directory.files) label
    fun _ h => ⟨rfl, h⟩).conseq
    (fun _ h => stood_false.mpr h) (fun _ _ h => stood_false.mp h) ?_
  rintro error w ⟨-, -, failed, hfault, hfailed, hR⟩
  refine ⟨fun hnot => ?_, hnew _ hR⟩
  have hfalse := hnot failed hfault
  rw [hfailed, hlate] at hfalse
  cases hfalse

theorem withMessage_ends {call : Call α} {message : String} {Q : α → World Directory FileStep → Prop}
    (h : Ends P call Q fun _ => E) : Ends P (withMessage message call) Q fun _ => E := by
  refine Ends.handle h fun error => ?_
  cases error <;> exact Ends.raise fun _ h => h

theorem openLock_ends :
    Ends (Contents files) openLock (fun _ => Contents files) fun _ => Contents files := by
  unfold openLock
  refine Ends.bind (R := fun _ => Contents files) (withMessage_ends ?_) fun _ => ?_
  · refine Ends.bind (touch_contents _) fun _ => ?_
    exact Ends.bind (touch_contents _) fun _ => touch_contents _
  · refine Ends.handle (touch_contents _) fun error => ?_
    exact Ends.bind (touch_contents _) fun _ => Ends.raise fun _ h => h

/-- A call under the lock. Closing the lock is the last step that may fail. -/
theorem locked_ends {body : Call α} {R : α → Files → Prop} (hlate : late .closeLock = true)
    (hold : W files) (hnew : ∀ a after, R a after → W after)
    (hbody : Ends (Contents files) body (fun a w => R a w.state.files)
      fun _ => Kept late W files) :
    Ends (Contents files) (locked body) (fun a w => R a w.state.files)
      fun _ => Kept late W files := by
  unfold locked
  refine Ends.bind (openLock_ends.conseq (fun _ h => h) (fun _ _ h => h)
    fun _ _ => Contents.kept hold) fun _ => ?_
  refine Ends.lastly ?_ (fun a => touch_late hlate (hnew a)) fun _ => touch_kept _
  exact Ends.bind ((touch_contents _).conseq (fun _ h => h) (fun _ _ h => h)
    fun _ _ => Contents.kept hold) fun _ => hbody

theorem read_ends (hold : W files) (name : FileName) :
    Ends (Contents files) (read name) (fun data w => data = files.get name ∧ Contents files w)
      fun _ => Kept late W files := by
  have htouch : ∀ label, Ends (Contents files) (touch label) (fun _ => Contents files)
      fun _ => Kept late W files :=
    fun label => (touch_contents label).conseq (fun _ h => h) (fun _ _ h => h)
      fun _ _ => Contents.kept hold
  have hlook : Ends (Contents files) (Steps.look : Call Directory)
      (fun directory w => directory.files = files ∧ Contents files w)
      fun _ => Kept late W files := by
    intro w h
    exact ⟨h, h⟩
  unfold read
  refine Ends.bind (htouch _) fun _ => ?_
  refine Ends.bind hlook fun directory => Ends.given fun hfiles => ?_
  rw [hfiles]
  cases hdata : files.get name with
  | none => exact Ends.pure fun _ h => ⟨rfl, h⟩
  | some data =>
      refine Ends.bind (R := fun _ => Contents files) ?_ fun _ => ?_
      · refine Ends.lastly ?_ (fun _ => htouch _) fun _ => touch_kept _
        exact Ends.bind (htouch _) fun _ => htouch _
      · split
        · exact Ends.raise fun _ => Contents.kept hold
        · exact Ends.pure fun _ h => ⟨rfl, h⟩

theorem replace_kept (hlate : ∀ label, afterRename label = true → late label = true)
    (hold : W files) {name : FileName} {data : Option Bytes} (hnew : W (files.set data name)) :
    Ends (Contents files) (replace name data) (fun _ => Contents (files.set data name))
      fun _ => Kept late W files := by
  refine (replace_ends name data files).conseq (fun _ h => stood_false.mpr h)
    (fun _ _ h => stood_false.mp h) ?_
  rintro error w ⟨-, -, label, hfault, hbefore | ⟨hafter, hlabel⟩⟩
  · exact Contents.kept hold hbefore
  · refine ⟨fun hnot => ?_, hafter ▸ hnew⟩
    have hfalse := hnot label hfault
    rw [hlate label hlabel] at hfalse
    cases hfalse

theorem check_ends (hold : W files) (result : Except Raised α) :
    Ends (Contents files) (Steps.ofExcept result) (fun a w => result = .ok a ∧ Contents files w)
      fun _ => Kept late W files :=
  Ends.ofExcept (fun _ h _ hw => ⟨h, hw⟩) fun _ _ _ => Contents.kept hold

end Hybro.RuntimeFiles
