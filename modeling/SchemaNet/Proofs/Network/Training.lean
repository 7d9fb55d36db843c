import SchemaNet.Proofs.Network.Evaluation
import SchemaNet.Proofs.Network.Provenance

/-!
Passes that draw random numbers. A pass whose outputs are all left as they are draws none: it
computes what an evaluation computes and leaves the generator alone. What a pass does to the
outputs of hidden modules is known from one module.
-/

namespace SchemaNet

namespace Stateful

variable {α σ β γ : Type}

theorem ofExcept_bind (first : Except (NetworkError α) β) (next : β → Except (NetworkError α) γ) :
    (Stateful.ofExcept (first >>= next) : Stateful α σ γ) =
      Stateful.ofExcept first >>= fun value => Stateful.ofExcept (next value) := by
  cases first <;> rfl

theorem mapM_ofExcept {f : β → Stateful α σ γ} {g : β → Except (NetworkError α) γ}
    (same : ∀ x, f x = Stateful.ofExcept (g x)) (xs : List β) :
    xs.mapM f = Stateful.ofExcept (xs.mapM g) := by
  induction xs with
  | nil => rfl
  | cons x rest ih =>
    rw [List.mapM_cons, List.mapM_cons, ofExcept_bind, same]
    refine congrArg _ (funext fun y => ?_)
    rw [ofExcept_bind, ih]
    rfl

theorem Ensures.mapM {f : β → Stateful α σ γ} {good : γ → Prop} {xs : List β}
    (h : ∀ x ∈ xs, (f x).Ensures good) :
    Ensures (xs.mapM f) fun ys => ∀ y ∈ ys, good y := by
  induction xs with
  | nil => exact .pure fun y mem => absurd mem List.not_mem_nil
  | cons x rest ih =>
    rw [List.mapM_cons]
    refine .bind (h x List.mem_cons_self) fun y first => ?_
    refine .bind (ih fun z hz => h z (List.mem_cons_of_mem _ hz)) fun ys others => ?_
    exact .pure (List.forall_mem_cons.2 ⟨first, others⟩)

end Stateful

namespace PolicyNetwork

variable {α σ : Type} [Scalar α]

/-! ## Passes without dropout -/

omit [Scalar α] in
theorem orFail_unchanged (result : Except (NetworkError α) (ModuleOutput α)) :
    (do let out ← (orFail result : Stateful α σ _)
        return { out with output := ← ExceptT.lift (pure out.output) }) =
      Stateful.ofExcept result := by
  cases result <;> rfl

theorem actionLayer_ofExcept (net : PolicyNetwork α) (weights : Weights α) (input : PolicyInput α)
    (layer : Nat) (acts props : List (Tensor α)) :
    net.actionLayer (m := StateM σ) weights pure input layer acts props =
      Stateful.ofExcept (net.actionOutputs weights input layer acts props) := by
  rw [actionLayer, net.wiring_eq, Wiring.ofProblem, List.mapM_map]
  refine Stateful.mapM_ofExcept (fun s => ?_) _
  rw [Function.comp_apply, actionModule, Stateful.ofExcept_bind]
  refine congrArg _ (funext fun view => ?_)
  dsimp only
  split
  · rfl
  · exact orFail_unchanged _

theorem propLayer_ofExcept (net : PolicyNetwork α) (weights : Weights α) (batch layer : Nat)
    (acts props : List (Tensor α)) :
    net.propLayer (m := StateM σ) weights pure batch layer acts props =
      Stateful.ofExcept (net.propOutputs weights batch layer acts props) := by
  rw [propLayer, net.wiring_eq, Wiring.ofProblem, List.mapM_map]
  refine Stateful.mapM_ofExcept (fun pred => ?_) _
  rw [Function.comp_apply, propModule, Stateful.ofExcept_bind]
  refine congrArg _ (funext fun view => ?_)
  exact orFail_unchanged _

theorem runLayers_ofExcept (net : PolicyNetwork α) (weights : Weights α) (input : PolicyInput α)
    (hidden layer : Nat) (acts props : List (Tensor α)) :
    net.runLayers (m := StateM σ) weights pure input hidden layer acts props =
      Stateful.ofExcept (net.layersFrom weights input hidden layer acts props) := by
  induction hidden generalizing layer acts props with
  | zero =>
    rw [runLayers, actionLayer_ofExcept, layersFrom, Stateful.ofExcept_bind]
    refine congrArg _ (funext fun final => ?_)
    rw [Stateful.ofExcept_bind]
    rfl
  | succ hidden ih =>
    rw [runLayers, actionLayer_ofExcept, layersFrom, Stateful.ofExcept_bind]
    refine congrArg _ (funext fun actions => ?_)
    dsimp only
    rw [propLayer_ofExcept, Stateful.ofExcept_bind]
    refine congrArg _ (funext fun predicates => ?_)
    rw [ih, Stateful.ofExcept_bind]
    rfl

/-- A pass that changes no output is an evaluation and leaves the state as it was. -/
theorem run_ofExcept (net : PolicyNetwork α) (weights : Weights α) (input : PolicyInput α) :
    net.run (m := StateM σ) weights pure input =
      Stateful.ofExcept (net.evaluate weights input) := by
  rw [run, evaluate_eq, Stateful.ofExcept_bind]
  refine congrArg _ (funext fun _ => ?_)
  rw [runLayers_ofExcept]

/-! ## The outputs of a pass -/

variable {net : PolicyNetwork α} {weights : Weights α} {drop : Tensor α → StateM σ (Tensor α)}
  {input : PolicyInput α} {good : ModuleOutput α → Prop}

/-- What holds of each module of a layer, after its output went through `drop`. -/
structure Drops (net : PolicyNetwork α) (weights : Weights α) (drop : Tensor α → StateM σ (Tensor α))
    (good : ModuleOutput α → Prop) : Prop where
  final : ∀ s view out, net.runModule weights (.action net.arch.final s) .identity view = .ok out →
    good out
  action : ∀ layer s view out before, layer < net.arch.final →
    net.runModule weights (.action layer s) net.config.activation view = .ok out →
      good { out with output := ((drop out.output).run before).1 }
  predicate : ∀ layer pred view out before,
    net.runModule weights (.predicate layer pred) net.config.activation view = .ok out →
      good { out with output := ((drop out.output).run before).1 }

variable {layer : Nat} {acts props : List (Tensor α)}

theorem Drops.actionLayer (h : net.Drops weights drop good) (inside : layer ≤ net.arch.final) :
    Stateful.Ensures (net.actionLayer weights drop input layer acts props) fun outs =>
      ∀ out ∈ outs, good out := by
  refine .mapM fun entry _ => .bind (.any _) fun view _ => ?_
  dsimp only
  split
  · next final =>
    subst final
    exact .ofExcept (h.final entry.schema view)
  · next hidden =>
    have before : layer < net.arch.final := Nat.lt_of_le_of_ne inside hidden
    refine .bind (.ofExcept fun _ ran => ran) fun out ran => ?_
    have dropped : Stateful.Ensures (ExceptT.lift (drop out.output) : Stateful α σ _)
        fun output => good { out with output := output } :=
      .lift fun state => h.action layer entry.schema view out state before ran
    exact .bind dropped fun _ done => .pure done

theorem Drops.propLayer (h : net.Drops weights drop good) {batch : Nat} :
    Stateful.Ensures (net.propLayer weights drop batch layer acts props) fun outs =>
      ∀ out ∈ outs, good out := by
  refine .mapM fun entry _ => .bind (.any _) fun view _ => ?_
  refine .bind (.ofExcept fun _ ran => ran) fun out ran => ?_
  have dropped : Stateful.Ensures (ExceptT.lift (drop out.output) : Stateful α σ _)
      fun output => good { out with output := output } :=
    .lift fun state => h.predicate layer entry.pred view out state ran
  exact .bind dropped fun _ done => .pure done

theorem Drops.runLayers (h : net.Drops weights drop good) {hidden : Nat}
    (inside : layer + hidden ≤ net.arch.final) :
    Stateful.Ensures (net.runLayers weights drop input hidden layer acts props) fun evaluation =>
      ∀ out ∈ evaluation.modules, good out := by
  induction hidden generalizing layer acts props with
  | zero =>
    refine .bind (h.actionLayer inside) fun final own => .bind (.any _) fun scores _ => ?_
    exact .pure own
  | succ hidden ih =>
    refine .bind (h.actionLayer (by omega)) fun actions own => ?_
    refine .bind h.propLayer fun predicates others => ?_
    refine .bind (ih (by omega)) fun rest later => ?_
    refine .pure (List.forall_mem_append.2 ⟨List.forall_mem_append.2 ⟨own, others⟩, later⟩)

/-- What holds of the output of each module holds of all outputs of a pass. -/
theorem Drops.run (h : net.Drops weights drop good) :
    Stateful.Ensures (net.run weights drop input) fun evaluation =>
      ∀ out ∈ evaluation.modules, good out :=
  .bind (.any _) fun _ _ => h.runLayers (Nat.le_of_eq (Nat.zero_add _))

end PolicyNetwork

end SchemaNet
