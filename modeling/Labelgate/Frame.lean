import Labelgate.World

/-!
# Frame conditions

`Frame R x` says that every run of `x` ends in a world that `R` relates to the world it started
in. For a reflexive and transitive `R`, frames compose through the monad (`Frame.bind`), through
the error handling of the model (`Frame.observe`, `Frame.wrapErr`) and through loops
(`Frame.forIn`), so the frame of an operation follows the structure of its code from the frames of
the calls it makes.
-/

namespace Labelgate

/-! ## Generic rules -/

section Generic

variable {α β γ : Type} {R : World → World → Prop}

/-- Every run of `x` ends in a world that `R` relates to the one it started in. -/
def Frame (R : World → World → Prop) (x : Op α) : Prop := ∀ w, R w (x.run.run w).2

theorem Frame.observe {x : Op α} (hx : Frame R x) : Frame R (observe x) := fun w => by
  simpa using hx w

theorem Frame.wrapErr {x : Op α} (pfx : String) (hx : Frame R x) : Frame R (wrapErr pfx x) :=
  fun w => by simpa using hx w

theorem Frame.mono {S : World → World → Prop} (h : ∀ w w', R w w' → S w w') {x : Op α}
    (hx : Frame R x) : Frame S x := fun w => h _ _ (hx w)

theorem Frame.ite {c : Prop} [Decidable c] {x y : Op α} (hx : Frame R x) (hy : Frame R y) :
    Frame R (if c then x else y) := by
  split <;> assumption

/-- Every value a run of `x` returns satisfies `Q`. -/
def Returns (Q : α → Prop) (x : Op α) : Prop := ∀ w a, (x.run.run w).1 = .ok a → Q a

/-- `Frame.bind` for a continuation whose frame needs a fact `Q` about the value `x` returns. -/
theorem Frame.bind_of [IsTrans World R] {x : Op α} {f : α → Op β} (Q : α → Prop) (hx : Frame R x)
    (hQ : Returns Q x) (hf : ∀ a, Q a → Frame R (f a)) : Frame R (x >>= f) := by
  intro w
  have hw := hx w
  rw [run_bind]
  rcases h : x.run.run w with ⟨_ | a, w'⟩
  · rw [h] at hw; exact hw
  · rw [h] at hw; exact trans_of R hw (hf a (hQ w a (by rw [h])) w')

theorem Frame.bind [IsTrans World R] {x : Op α} {f : α → Op β} (hx : Frame R x)
    (hf : ∀ a, Frame R (f a)) : Frame R (x >>= f) :=
  hx.bind_of (fun _ => True) (fun _ _ _ => trivial) fun a _ => hf a

theorem Frame.map {x : Op α} (f : α → β) (hx : Frame R x) : Frame R (f <$> x) := fun w => by
  simpa using hx w

variable [IsRefl World R]

theorem frame_pure (a : α) : Frame R (pure a : Op α) := fun w => refl_of R w

theorem frame_throw (e : String) : Frame R (throw e : Op α) := fun w => refl_of R w

theorem frame_get : Frame R (get : Op World) := fun w => refl_of R w

theorem frame_liftExcept (e : Except String α) : Frame R (liftExcept e : Op α) := fun w => by
  simpa using refl_of R w

/-- A loop keeps the frame that its body keeps on each element it visits. -/
theorem Frame.forIn [IsTrans World R] {l : List γ} {f : γ → β → Op (ForInStep β)}
    (hf : ∀ a ∈ l, ∀ b, Frame R (f a b)) (b : β) : Frame R (forIn l b f) := by
  induction l generalizing b with
  | nil => exact frame_pure b
  | cons a l ih =>
    rw [List.forIn_cons]
    exact (hf a (List.mem_cons_self _ _) b).bind fun
      | .done b => frame_pure b
      | .yield b => ih (fun a ha => hf a (List.mem_cons_of_mem _ ha)) b

theorem Frame.foldlM [IsTrans World R] {l : List γ} {f : β → γ → Op β}
    (hf : ∀ b, ∀ a ∈ l, Frame R (f b a)) (b : β) : Frame R (l.foldlM f b) := by
  induction l generalizing b with
  | nil => exact frame_pure b
  | cons a l ih =>
    rw [List.foldlM_cons]
    exact (hf b a (List.mem_cons_self _ _)).bind fun b' =>
      ih (fun b a ha => hf b a (List.mem_cons_of_mem _ ha)) b'

theorem returns_pure {Q : α → Prop} {a : α} (h : Q a) : Returns Q (pure a : Op α) :=
  fun _ _ h' => Except.ok.inj h' ▸ h

theorem returns_throw (Q : α → Prop) (e : String) : Returns Q (throw e : Op α) := fun _ _ h => by
  cases h

theorem Returns.bind_of {Q : β → Prop} {x : Op α} {f : α → Op β} (P : α → Prop) (hx : Returns P x)
    (hf : ∀ a, P a → Returns Q (f a)) : Returns Q (x >>= f) := fun w b h => by
  rw [run_bind] at h
  rcases hrun : x.run.run w with ⟨_ | a, w'⟩
  · rw [hrun] at h; cases h
  · rw [hrun] at h; exact hf a (hx w a (by rw [hrun])) w' b h

theorem Returns.bind {Q : β → Prop} {x : Op α} {f : α → Op β} (hf : ∀ a, Returns Q (f a)) :
    Returns Q (x >>= f) :=
  Returns.bind_of (fun _ => True) (fun _ _ _ => trivial) fun a _ => hf a

theorem Returns.map {P : α → Prop} {Q : β → Prop} {x : Op α} {f : α → β} (hx : Returns P x)
    (h : ∀ a, P a → Q (f a)) : Returns Q (f <$> x) := fun w b hb => by
  rw [run_map] at hb
  rcases hrun : (x.run.run w).1 with e | a
  · rw [hrun] at hb; cases hb
  · rw [hrun] at hb; cases hb; exact h a (hx w a hrun)

theorem Returns.ite {Q : α → Prop} {c : Prop} [Decidable c] {x y : Op α} (hx : Returns Q x)
    (hy : Returns Q y) : Returns Q (if c then x else y) := by
  split <;> assumption

theorem Returns.wrapErr {Q : α → Prop} {x : Op α} (pfx : String) (hx : Returns Q x) :
    Returns Q (wrapErr pfx x) := fun w a h => hx w a (by
  rw [run_wrapErr] at h
  rcases hrun : (x.run.run w).1 with e | a'
  · rw [hrun] at h; cases h
  · rw [hrun] at h; exact h)

end Generic

/-! ## Operations that never fail

Most operations of the operators log their errors and go on: they never fail, so a loop over
them always reaches its end. -/

section Total

variable {α β γ : Type}

/-- Every run of `x` succeeds. -/
def Total (x : Op α) : Prop := ∀ w, ∃ a, (x.run.run w).1 = .ok a

theorem total_pure (a : α) : Total (pure a : Op α) := fun _ => ⟨a, rfl⟩

theorem total_observe (x : Op α) : Total (observe x) := fun _ => ⟨_, rfl⟩

theorem Total.bind {x : Op α} {f : α → Op β} (hx : Total x) (hf : ∀ a, Total (f a)) :
    Total (x >>= f) := fun w => by
  obtain ⟨a, ha⟩ := hx w
  rw [run_bind]
  rcases h : x.run.run w with ⟨_ | a', w'⟩
  · rw [h] at ha; cases ha
  · exact hf a' w'

theorem Total.ite {c : Prop} [Decidable c] {x y : Op α} (hx : Total x) (hy : Total y) :
    Total (if c then x else y) := by
  split <;> assumption

theorem Total.map {x : Op α} (f : α → β) (hx : Total x) : Total (f <$> x) := fun w => by
  obtain ⟨a, ha⟩ := hx w
  exact ⟨f a, by simp [ha]⟩

theorem Total.forIn {l : List γ} {f : γ → β → Op (ForInStep β)} (hf : ∀ a ∈ l, ∀ b, Total (f a b))
    (b : β) : Total (forIn l b f) := by
  induction l generalizing b with
  | nil => exact total_pure b
  | cons a l ih =>
    rw [List.forIn_cons]
    exact (hf a (List.mem_cons_self _ _) b).bind fun
      | .done b => total_pure b
      | .yield b => ih (fun a ha => hf a (List.mem_cons_of_mem _ ha)) b

theorem Total.foldlM {l : List γ} {f : β → γ → Op β} (hf : ∀ b, ∀ a ∈ l, Total (f b a)) (b : β) :
    Total (l.foldlM f b) := by
  induction l generalizing b with
  | nil => exact total_pure b
  | cons a l ih =>
    rw [List.foldlM_cons]
    exact (hf b a (List.mem_cons_self _ _)).bind fun b' =>
      ih (fun b a ha => hf b a (List.mem_cons_of_mem _ ha)) b'

/-- A loop whose step on its first element succeeds goes on from the world that step leaves. -/
theorem Total.run_foldlM_cons {f : β → γ → Op β} {b : β} {a : γ} (h : Total (f b a)) (l : List γ)
    (w : World) :
    ∃ b', ((a :: l).foldlM f b).run.run w = (l.foldlM f b').run.run ((f b a).run.run w).2 := by
  obtain ⟨b', hb'⟩ := h w
  exact ⟨b', by rw [List.foldlM_cons, run_bind_ok (Prod.ext hb' rfl)]⟩

/-- A loop whose body always yields runs to its end, through the worlds its body leaves. -/
theorem run_forIn_yield {l : List γ} {f : γ → PUnit → Op (ForInStep PUnit)}
    (hf : ∀ a w, ((f a PUnit.unit).run.run w).1 = .ok (.yield PUnit.unit)) (w : World) :
    (forIn l PUnit.unit f).run.run w =
      (.ok PUnit.unit, l.foldl (fun w a => ((f a PUnit.unit).run.run w).2) w) := by
  induction l generalizing w with
  | nil => rfl
  | cons a l ih =>
    rw [List.forIn_cons, run_bind_ok (Prod.ext (hf a w) rfl), List.foldl_cons]
    exact ih _

/-- A loop whose body always yields runs through the states and worlds its body steps to. -/
theorem run_forIn_state {l : List γ} {f : γ → β → Op (ForInStep β)} (step : γ → β × World → β × World)
    (hf : ∀ a b w, (f a b).run.run w = (.ok (.yield (step a (b, w)).1), (step a (b, w)).2))
    (b : β) (w : World) :
    (forIn l b f).run.run w =
      (.ok (l.foldl (fun p a => step a p) (b, w)).1, (l.foldl (fun p a => step a p) (b, w)).2) := by
  induction l generalizing b w with
  | nil => rfl
  | cons a l ih => rw [List.forIn_cons, run_bind, hf, List.foldl_cons]; exact ih _ _

theorem total_saveResource (env : Env) (r : ManagedResource) : Total (saveResource env r) := fun w => by
  rw [run_saveResource]
  dsimp only
  split
  · exact ⟨_, rfl⟩
  · split <;> exact ⟨_, rfl⟩

end Total

/-! ## Frames -/

/-- The two worlds agree on `g`. -/
def Keeps {β : Type} (g : World → β) (w w' : World) : Prop := g w' = g w

instance {β : Type} (g : World → β) : IsRefl World (Keeps g) := ⟨fun _ => rfl⟩

instance {β : Type} (g : World → β) : IsTrans World (Keeps g) := ⟨fun _ _ _ h h' => h'.trans h⟩

/-! ## What an operation keeps of the remote account

The ledger calls and the failure points touch no remote object, so they keep every function of
the remote account; a `modifyCloud` keeps the functions its update keeps. -/

section Cloud

variable (env : Env) {β : Type} (g : Cloud → β)

theorem cloudKeeps_remoteCall : Frame (Keeps fun w => g w.cloud) (remoteCall env) := fun w => by
  simp [Keeps]

theorem cloudKeeps_issue (c : Call) : Frame (Keeps fun w => g w.cloud) (issue env c) := fun w => by
  simp [Keeps]

theorem cloudKeeps_freshID (pfx : String) : Frame (Keeps fun w => g w.cloud) (freshID pfx) :=
  fun _ => rfl

theorem cloudKeeps_modifyCloud (f : Cloud → Cloud) (hf : ∀ c, g (f c) = g c) :
    Frame (Keeps fun w => g w.cloud) (modifyCloud f) := fun w => hf w.cloud

theorem cloudKeeps_saveResource (r : ManagedResource) :
    Frame (Keeps fun w => g w.cloud) (saveResource env r) := fun w => by
  simp [Keeps]

theorem cloudKeeps_updateResourceError (id : String) (status : ResourceStatus) (lastError : String) :
    Frame (Keeps fun w => g w.cloud) (updateResourceError env id status lastError) := fun w => by
  by_cases h : env.storeFails w.storeTick <;> simp [Keeps, h]

theorem cloudKeeps_updateResourceStatus (id : String) (status : ResourceStatus) :
    Frame (Keeps fun w => g w.cloud) (updateResourceStatus env id status) := fun w => by
  by_cases h : env.storeFails w.storeTick <;> simp [Keeps, h]

end Cloud

end Labelgate
