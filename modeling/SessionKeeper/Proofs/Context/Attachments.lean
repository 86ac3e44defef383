import SessionKeeper.Proofs.Context.Forest
import SessionKeeper.Proofs.Transaction.ModeSafety

/-!
Attachments in a forest of contexts. A context carries what was attached to it and, after that, what
the one carries that it was derived from (`Forest.Lineal`). So what is found under a key is what was
attached nearest on the way down (`Forest.Nearest`), which is told by the forest alone. Later steps
leave the ways down to the contexts that there were as they are (`Forest.Above.of_kept`), and with
them what those contexts carry.

A transaction is bound to one context, that of its unit of work, and under a handle that no older
context carries. It is the active one there and in the contexts derived from it, and nowhere else.

Correspondence: `with_value` ↔ `Context.withValue`, `value` ↔ `Context.value?`; `bind` and `active`
of the registry are these two at the key of the channel. Contexts are bound to a transaction by an
attempt alone, so what is said of handles is for contexts that carry none but such
(`RequestContext.Genuine`).
-/

namespace SessionKeeper.Context

variable {H : Host} {κ : Type} {V : κ → Type}

/-- What was attached to a context in the way it came about. -/
def Origin.attachments : Origin V → List (Sigma V)
  | .value key attached => [⟨key, attached⟩]
  | _ => []

namespace Forest

/-- On the way down to the context numbered `j` the value was attached, to the one numbered `i`. -/
def Attached (f : Forest V) (key : κ) (value : V key) (i j : Nat) : Prop :=
  f.Above i j ∧ f.origin? i = some (.value key value)

/-- What was attached under the key nearest to the context numbered `j`: to itself or to a context
above it, with all others that have an attachment under the key still further above. -/
def Nearest (f : Forest V) (key : κ) (j : Nat) : Option (V key) → Prop
  | some value => ∃ i, f.Attached key value i j ∧
      ∀ k other, f.Attached key other k j → f.Above k i
  | none => ∀ i value, ¬ f.Attached key value i j

/-- What a context inherits from the one that it is derived from. -/
def inherited (f : Forest V) (parent : Option Nat) : List (Sigma V) :=
  ((parent.bind (f[·]?)).map (·.context.attachments)).getD []

/-- Every context carries what was attached to it, and then what it inherits. -/
structure Lineal (f : Forest V) : Prop where
  ranked : f.Ranked
  attachments : ∀ (j : Nat) (node : Node V), f[j]? = some node →
    node.context.attachments = node.origin.attachments ++ f.inherited node.parent

variable {f f' : Forest V} {node : Node V} {key : κ} {i j k : Nat}

/-! ## Ways down a forest that grows -/

theorem Above.le (ranked : f.Ranked) (above : f.Above i j) : i ≤ j := by
  induction above with
  | self given => exact Nat.le_refl _
  | child given derived _ ih => exact Nat.le_trans ih (Nat.le_of_lt (ranked _ _ given _ derived))

theorem Above.antisymm (ranked : f.Ranked) (above : f.Above i j) (below : f.Above j i) : i = j :=
  Nat.le_antisymm (above.le ranked) (below.le ranked)

theorem getElem?_kept (kept : f <+: f') (old : j < f.length) : f'[j]? = f[j]? := by
  obtain ⟨more, rfl⟩ := kept
  exact List.getElem?_append_left old

theorem origin?_kept (kept : f <+: f') (old : j < f.length) : f'.origin? j = f.origin? j := by
  rw [origin?, origin?, getElem?_kept kept old]

theorem Above.of_kept (ranked : f.Ranked) (kept : f <+: f') (above : f'.Above i j)
    (old : j < f.length) : f.Above i j := by
  induction above with
  | self => exact .self old
  | child given derived _ ih =>
    rw [getElem?_kept kept old] at given
    exact .child given derived (ih (Nat.lt_trans (ranked _ _ given _ derived) old))

theorem above_kept_iff (ranked : f.Ranked) (kept : f <+: f') (old : j < f.length) :
    f'.Above i j ↔ f.Above i j := by
  refine ⟨fun above => above.of_kept ranked kept old, fun above => ?_⟩
  obtain ⟨more, rfl⟩ := kept
  exact above.append more

theorem attached_kept_iff (ranked : f.Ranked) (kept : f <+: f') (old : j < f.length)
    {value : V key} : f'.Attached key value i j ↔ f.Attached key value i j := by
  simp only [Attached, above_kept_iff ranked kept old]
  refine and_congr_right fun above => ?_
  rw [origin?_kept kept (Nat.lt_of_le_of_lt (above.le ranked) old)]

theorem nearest_kept_iff (ranked : f.Ranked) (kept : f <+: f') (old : j < f.length)
    {answer : Option (V key)} : f'.Nearest key j answer ↔ f.Nearest key j answer := by
  cases answer with
  | none => simp only [Nearest, attached_kept_iff ranked kept old]
  | some value =>
    simp only [Nearest, attached_kept_iff ranked kept old]
    refine exists_congr fun i => and_congr_right fun attached => ?_
    have older : i < f.length := Nat.lt_of_le_of_lt (attached.1.le ranked) old
    simp only [above_kept_iff ranked kept older]

/-! ## What is nearest -/

theorem Nearest.unique (ranked : f.Ranked) {answer answer' : Option (V key)}
    (nearest : f.Nearest key j answer) (nearest' : f.Nearest key j answer') : answer = answer' := by
  cases answer with
  | none =>
    cases answer' with
    | none => rfl
    | some value =>
      obtain ⟨i, attached, -⟩ := nearest'
      exact absurd attached (nearest i value)
  | some value =>
    obtain ⟨i, attached, closest⟩ := nearest
    cases answer' with
    | none => exact absurd attached (nearest' i value)
    | some value' =>
      obtain ⟨i', attached', closest'⟩ := nearest'
      obtain rfl := (closest' i value attached).antisymm ranked (closest i' value' attached')
      have same := attached.2.symm.trans attached'.2
      simp only [Option.some.injEq, Origin.value.injEq, heq_eq_eq, true_and] at same
      rw [same]

theorem nearest_self {value : V key} (given : f[j]? = some node)
    (attached : node.origin = .value key value) : f.Nearest key j (some value) := by
  have old := (List.getElem?_eq_some_iff.mp given).1
  refine ⟨j, ⟨.self old, ?_⟩, fun k other attached => attached.1⟩
  rw [origin?, given, Option.map_some, attached]

/-- Where nothing was attached under the key to the context itself, its attachments are those on the
way down to its parent. -/
theorem attached_iff_parent (given : f[j]? = some node)
    (other : ∀ value, node.origin ≠ .value key value) {value : V key} :
    f.Attached key value i j ↔ ∃ p ∈ node.parent, f.Attached key value i p := by
  have elsewhere : f.origin? j ≠ some (.value key value) := by
    rw [origin?, given, Option.map_some]
    exact fun same => other value (Option.some.inj same)
  constructor
  · rintro ⟨above, attached⟩
    rcases (above_iff given).mp above with rfl | ⟨p, parent, above⟩
    · exact absurd attached elsewhere
    · exact ⟨p, parent, above, attached⟩
  · rintro ⟨p, parent, above, attached⟩
    exact ⟨.child given parent above, attached⟩

theorem Nearest.of_parent (given : f[j]? = some node)
    (other : ∀ value, node.origin ≠ .value key value) {p : Nat} (parent : node.parent = some p)
    {answer : Option (V key)} (nearest : f.Nearest key p answer) : f.Nearest key j answer := by
  have same : ∀ {i value}, f.Attached key value i j ↔ f.Attached key value i p := by
    intro i value
    simp [attached_iff_parent given other, parent]
  cases answer with
  | none => exact fun i value attached => nearest i value (same.mp attached)
  | some value =>
    obtain ⟨i, attached, closest⟩ := nearest
    exact ⟨i, same.mpr attached, fun k value' attached' => closest k value' (same.mp attached')⟩

theorem inherited_eq (given : f[j]? = some node) :
    f.inherited (some j) = node.context.attachments := by
  rw [inherited, Option.bind_some, given]
  rfl

theorem inherited_kept (kept : f <+: f') {parent : Option Nat}
    (known : ∀ k ∈ parent, k < f.length) : f'.inherited parent = f.inherited parent := by
  cases parent with
  | none => rfl
  | some k => rw [inherited, inherited, Option.bind_some, getElem?_kept kept (known k rfl),
      Option.bind_some]

namespace Lineal

variable [DecidableEq κ]

theorem value?_of_attached (lineal : f.Lineal) (given : f[j]? = some node) {value : V key}
    (attached : node.origin = .value key value) : node.context.value? key = some value := by
  rw [Context.value?, lineal.attachments j node given, attached, Origin.attachments,
    List.singleton_append, find?, dif_pos rfl]

theorem value?_of_parent (lineal : f.Lineal) (given : f[j]? = some node)
    (other : ∀ value, node.origin ≠ .value key value) :
    node.context.value? key = find? key (f.inherited node.parent) := by
  rw [Context.value?, lineal.attachments j node given]
  cases origin : node.origin with
  | value key' value =>
    have apart : key' ≠ key := by
      rintro rfl
      exact other value origin
    rw [Origin.attachments, List.singleton_append, find?, dif_neg apart]
  | background => rfl
  | cancellation scope => rfl
  | deadline time => rfl
  | clone => rfl

/-- What a context finds under a key is nearest to it, by induction on the way up to the root. -/
theorem nearest (lineal : f.Lineal) (given : f[j]? = some node) :
    f.Nearest key j (node.context.value? key) := by
  induction j using Nat.strongRecOn generalizing node with
  | ind j ih =>
    by_cases own : ∃ value, node.origin = .value key value
    · obtain ⟨value, attached⟩ := own
      rw [lineal.value?_of_attached given attached]
      exact nearest_self given attached
    · have other : ∀ value, node.origin ≠ .value key value := fun value same => own ⟨value, same⟩
      rw [lineal.value?_of_parent given other]
      cases parent : node.parent with
      | none =>
        intro i value attached
        obtain ⟨p, mem, -⟩ := (attached_iff_parent given other).mp attached
        rw [parent] at mem
        cases mem
      | some p =>
        have before := lineal.ranked j node given p parent
        have known := Nat.lt_trans before (List.getElem?_eq_some_iff.mp given).1
        have upper := List.getElem?_eq_getElem known
        rw [inherited_eq upper]
        exact (ih p before upper).of_parent given other parent

theorem value?_eq_iff (lineal : f.Lineal) (given : f[j]? = some node) {answer : Option (V key)} :
    node.context.value? key = answer ↔ f.Nearest key j answer := by
  constructor
  · rintro rfl
    exact lineal.nearest given
  · exact (lineal.nearest given).unique lineal.ranked

end Lineal

end Forest

/-! ## Steps -/

/-- The context is new to the forest: it carries what was attached to it in this step, if anything
was, and what it inherits. -/
structure Node.Made (node : Node V) (f : Forest V) (step : Step V) : Prop where
  derived : ∀ k ∈ node.parent, k < f.length
  attachments : node.context.attachments = node.origin.attachments ++ f.inherited node.parent
  attached : ∀ key value, node.origin = .value key value →
    ∃ parent, step = .withValue parent key value

theorem Forest.Lineal.append {f : Forest V} {node : Node V} {step : Step V} (lineal : f.Lineal)
    (made : node.Made f step) : Forest.Lineal (f ++ [node]) where
  ranked := lineal.ranked.append made.derived
  attachments j other given := by
    rcases Forest.getElem?_append_eq_some.mp given with given | ⟨rfl, rfl⟩
    · have before := fun k mem => lineal.ranked j other given k mem
      have old := (List.getElem?_eq_some_iff.mp given).1
      rw [Forest.inherited_kept (List.prefix_append _ _) fun k mem =>
        Nat.lt_trans (before k mem) old]
      exact lineal.attachments j other given
    · rw [Forest.inherited_kept (List.prefix_append _ _) made.derived]
      exact made.attachments

namespace History

variable {h h' : History V} {step : Step V} {steps : List (Step V)}

/-- What steps make of a history: the forest may have grown, and what was attached in its new
contexts was attached in one of the steps. -/
structure Grown (h : History V) (steps : List (Step V)) (h' : History V) : Prop where
  lineal : h'.forest.Lineal
  kept : h.forest <+: h'.forest
  attached : ∀ i key value, h'.forest.origin? i = some (.value key value) →
    h.forest.origin? i = some (.value key value) ∨ ∃ parent, Step.withValue parent key value ∈ steps

theorem Grown.of_same (lineal : h.forest.Lineal) (same : h'.forest = h.forest) :
    h.Grown steps h' := by
  rw [← same] at lineal
  exact ⟨lineal, same ▸ List.prefix_rfl, fun i key value given => .inl (same ▸ given)⟩

theorem Grown.of_made (lineal : h.forest.Lineal) {node : Node V} (made : node.Made h.forest step)
    (grown : h'.forest = h.forest ++ [node]) : h.Grown [step] h' := by
  refine ⟨grown ▸ lineal.append made, grown ▸ List.prefix_append _ _, fun i key value given => ?_⟩
  rw [grown] at given
  rcases Forest.origin?_append_eq_some.mp given with given | ⟨-, attached⟩
  · exact .inl given
  · obtain ⟨parent, same⟩ := made.attached key value attached
    exact .inr ⟨parent, List.mem_singleton.mpr same.symm⟩

theorem Grown.cons {h₁ : History V} (first : h.Grown [step] h₁) (later : h₁.Grown steps h') :
    h.Grown (step :: steps) h' := by
  refine ⟨later.lineal, first.kept.trans later.kept, fun i key value given => ?_⟩
  rcases later.attached i key value given with given | ⟨parent, mem⟩
  · rcases first.attached i key value given with given | ⟨parent, mem⟩
    · exact .inl given
    · exact .inr ⟨parent, List.mem_cons.mpr (.inl (List.mem_singleton.mp mem))⟩
  · exact .inr ⟨parent, List.mem_cons_of_mem _ mem⟩

/-- From `s` the program comes to a history that has grown so. -/
def Grows (h : History V) (steps : List (Step V)) (p : Program H (History V)) (s : State H) :
    Prop :=
  ∃ h' s', p.run s = (.ok h', s') ∧ h.Grown steps h'

variable {s : State H}

theorem grows_same (lineal : h.forest.Lineal) (same : h'.forest = h.forest) :
    h.Grows steps (pure h' : Program H (History V)) s :=
  ⟨h', s, rfl, .of_same lineal same⟩

theorem grows_derive (lineal : h.forest.Lineal) {parent : Nat}
    {make : Context V → Program H (Origin V × Context V)}
    (makes : ∀ node, h.forest[parent]? = some node → ∃ origin context s',
      (make node.context).run s = (.ok (origin, context), s') ∧
        context.attachments = origin.attachments ++ node.context.attachments ∧
        ∀ key value, origin = .value key value → ∃ parent, step = .withValue parent key value) :
    h.Grows [step] (h.derive parent make) s := by
  rw [History.derive]
  cases given : h.forest[parent]? with
  | none => exact grows_same lineal rfl
  | some node =>
    by_cases dropped : parent ∈ h.dropped
    · simpa only [if_pos dropped] using grows_same lineal rfl
    · obtain ⟨origin, context, s', ran, attachments, attached⟩ := makes node given
      simp only [if_neg dropped]
      refine ⟨_, s', Program.run_bind_ok ran _, .of_made lineal ⟨?_, ?_, attached⟩ rfl⟩
      · intro k mem
        cases mem
        exact (List.getElem?_eq_some_iff.mp given).1
      · rw [attachments, Forest.inherited_eq given]

theorem grows_perform (lineal : h.forest.Lineal) (step : Step V) (s : State H) :
    h.Grows [step] (h.perform step) s := by
  cases step with
  | background =>
    refine ⟨_, s, rfl, .of_made lineal ⟨?_, rfl, ?_⟩ rfl⟩
    · simp
    · simp
  | withCancel parent =>
    rw [History.perform]
    exact grows_derive lineal fun node given => ⟨_, _, _, rfl, rfl, by simp⟩
  | withTimeout parent length =>
    rw [History.perform]
    exact grows_derive lineal fun node given => ⟨_, _, s, rfl, rfl, by simp⟩
  | withDeadline parent time =>
    rw [History.perform]
    exact grows_derive lineal fun node given => ⟨_, _, s, rfl, rfl, by simp⟩
  | withValue parent key value =>
    rw [History.perform]
    refine grows_derive lineal fun node given => ⟨_, _, s, rfl, rfl, ?_⟩
    intro key' value' same
    cases same
    exact ⟨parent, rfl⟩
  | clone original =>
    rw [History.perform]
    exact grows_derive lineal fun node given => ⟨_, _, s, rfl, rfl, by simp⟩
  | drop context => exact grows_same lineal rfl
  | cancel context =>
    rw [History.perform]
    split
    · exact ⟨_, _, rfl, .of_same lineal rfl⟩
    · exact grows_same lineal rfl
  | sleep length => exact ⟨h, _, rfl, .of_same lineal rfl⟩

theorem grows_performAll (lineal : h.forest.Lineal) (steps : List (Step V)) (s : State H) :
    h.Grows steps (h.performAll steps) s := by
  induction steps generalizing h s with
  | nil => exact grows_same lineal rfl
  | cons step rest ih =>
    obtain ⟨h₁, s₁, first, grown⟩ := grows_perform lineal step s
    obtain ⟨h', s', others, grown'⟩ := ih grown.lineal s₁
    exact ⟨h', s', (Program.run_bind_ok first _).trans others, grown.cons grown'⟩

theorem lineal_nil : ({} : History V).forest.Lineal where
  ranked _ _ given := by simp at given
  attachments _ _ given := by simp at given

end History

/-! ## Bound transactions -/

/-- The handle is the active transaction of the channel in the context numbered `b` and those
derived from it, up to where another is bound, and in no other context. -/
def Forest.ActiveBelow (f : Forest Slot.Value) (channel : Channel) (handle : Handle) (b : Nat) :
    Prop :=
  ∀ (j : Nat) (node : Node Slot.Value), f[j]? = some node →
    (RequestContext.active? node.context channel = some handle ↔
      f.Above b j ∧ ∀ k other, f.Attached (.transaction channel) other k j → f.Above k b)

theorem Forest.Lineal.activeBelow {f : Forest Slot.Value} (lineal : f.Lineal) {channel : Channel}
    {handle : Handle} {b : Nat}
    (bound : ∀ i, f.origin? i = some (.value (.transaction channel) handle) ↔ i = b) :
    f.ActiveBelow channel handle b := by
  intro j node given
  rw [RequestContext.active?, lineal.value?_eq_iff given]
  constructor
  · rintro ⟨i, ⟨above, attached⟩, closest⟩
    obtain rfl := (bound i).mp attached
    exact ⟨above, closest⟩
  · rintro ⟨above, closest⟩
    exact ⟨b, ⟨above, (bound b).mpr rfl⟩, closest⟩

end SessionKeeper.Context

namespace SessionKeeper

open Context

variable {H : Host} {α : Type}

theorem Handle.Issued.lease_lt {handle : Handle} {channel : Channel} {s : State H}
    (issued : handle.Issued channel s) : handle.lease.id < s.holdings.length := by
  rcases issued with ended | ⟨c, is_open⟩
  · exact (List.getElem?_eq_some_iff.mp ended).1
  · exact (List.getElem?_eq_some_iff.mp is_open.connected).1

/-- The context that an attempt gives to its unit of work is the caller's with a new handle. -/
theorem Store.AttemptTurns.bound {store : Store H} {mode : Mode} {ctx inner : RequestContext}
    {work : UnitOfWork H α} {n : Nat} {s t : State H}
    (turn : store.AttemptTurns mode ctx work n s inner t) :
    ∃ handle : Handle, inner = ctx.bind store.channel handle ∧
      s.holdings.length ≤ handle.lease.id := by
  cases turn with
  | begun obtained rounds => exact ⟨_, rfl, (Program.later_of_run obtained).holdings⟩

/-- Binding a new handle, which older contexts do not carry, makes it the active transaction of the
contexts derived from there on, whatever else is derived or bound afterwards. -/
theorem Context.History.grown_bind {h : History Slot.Value} (lineal : h.forest.Lineal) {p : Nat}
    {caller : Node Slot.Value} (given : h.forest[p]? = some caller) (kept : p ∉ h.dropped)
    {channel : Channel} {handle : Handle}
    (new : ∀ i, h.forest.origin? i ≠ some (.value (.transaction channel) handle))
    {more : List (Step Slot.Value)}
    (once : ∀ q, Step.withValue q (.transaction channel) handle ∉ more) (s : State H) :
    ∃ h' s', (h.performAll (.withValue p (.transaction channel) handle :: more)).run s =
        (.ok h', s') ∧
      h'.forest[h.forest.length]? = some ⟨some p, .value (.transaction channel) handle,
        RequestContext.bind caller.context channel handle⟩ ∧
      h'.forest.ActiveBelow channel handle h.forest.length := by
  let bound : Node Slot.Value := ⟨some p, .value (.transaction channel) handle,
    RequestContext.bind caller.context channel handle⟩
  let h₁ : History Slot.Value := { h with forest := h.forest ++ [bound] }
  have first : (h.perform (.withValue p (.transaction channel) handle)).run s = (.ok h₁, s) := by
    simp only [History.perform, History.derive, given, if_neg kept]
    rfl
  have made : bound.Made h.forest (.withValue p (.transaction channel) handle) := by
    refine ⟨fun k mem => ?_, ?_, fun key value same => ?_⟩
    · cases mem
      exact (List.getElem?_eq_some_iff.mp given).1
    · rw [Forest.inherited_eq given]
      rfl
    · cases same
      exact ⟨p, rfl⟩
  have lineal₁ : h₁.forest.Lineal := lineal.append made
  obtain ⟨h', s', others, grown⟩ := grows_performAll lineal₁ more s
  have last : h₁.forest[h.forest.length]? = some bound := by simp [h₁]
  have there : h.forest.length < h₁.forest.length := (List.getElem?_eq_some_iff.mp last).1
  have found := (Forest.getElem?_kept grown.kept there).trans last
  refine ⟨h', s', (Program.run_bind_ok first _).trans others, found, ?_⟩
  refine grown.lineal.activeBelow fun i => ⟨fun attached => ?_, ?_⟩
  · rcases grown.attached i _ _ attached with attached | ⟨q, mem⟩
    · rcases Forest.origin?_append_eq_some.mp attached with old | ⟨same, -⟩
      · exact absurd old (new i)
      · exact same
    · exact absurd mem (once q)
  · rintro rfl
    rw [Forest.origin?, found]
    rfl

/-- Attachments are scoped to derivations, over any history of contexts. What a context finds under
a key is what was attached under it nearest on the way down to the context, and nothing if nothing
was, whatever else lies on the way; and it stays that, whatever steps follow, with other contexts or
with this one.

So the active transaction of a channel is the one bound nearest. Where an attempt made under one of
the contexts runs its unit of work, it has bound a new handle to that context; from there on the
handle is the active transaction in the context of the unit of work and in those derived from it, up
to where another is bound, and in no other context, older or newer. -/
theorem attachments_scoped (H : Host) :
    (∀ {κ : Type} [DecidableEq κ] {V : κ → Type} (steps : List (Step V)) (s : State H),
      ∃ h s₁, (History.performAll {} steps).run s = (.ok h, s₁) ∧
        (∀ (j : Nat) (node : Node V), h.forest[j]? = some node → ∀ key answer,
          node.context.value? key = answer ↔ h.forest.Nearest key j answer) ∧
        ∀ more, ∃ h₂ s₂, (h.performAll more).run s₁ = (.ok h₂, s₂) ∧
          ∀ (j : Nat) (node : Node V), h.forest[j]? = some node → h₂.forest[j]? = some node ∧
            ∀ key answer, h₂.forest.Nearest key j answer ↔ h.forest.Nearest key j answer) ∧
    (∀ (steps : List (Step Slot.Value)) (s : State H),
      ∃ h s₁, (History.performAll {} steps).run s = (.ok h, s₁) ∧
        (∀ (j : Nat) (node : Node Slot.Value), h.forest[j]? = some node → ∀ channel answer,
          RequestContext.active? node.context channel = answer ↔
            h.forest.Nearest (.transaction channel) j answer) ∧
        ∀ {α : Type} (store : Store H) (mode : Mode) (work : UnitOfWork H α) (n p : Nat)
          (caller : Node Slot.Value) (inner : RequestContext) (s₂ t : State H),
          h.forest[p]? = some caller → p ∉ h.dropped →
          (∀ (j : Nat) (node : Node Slot.Value), h.forest[j]? = some node →
            RequestContext.Genuine node.context s₂) →
          store.AttemptTurns mode caller.context work n s₂ inner t →
          ∃ handle : Handle, inner = RequestContext.bind caller.context store.channel handle ∧
            ∀ more, (∀ q, Step.withValue q (.transaction store.channel) handle ∉ more) →
              ∃ h' s', (h.performAll
                  (.withValue p (.transaction store.channel) handle :: more)).run t =
                    (.ok h', s') ∧
                h'.forest[h.forest.length]? =
                  some ⟨some p, .value (.transaction store.channel) handle, inner⟩ ∧
                h'.forest.ActiveBelow store.channel handle h.forest.length) := by
  refine ⟨fun steps s => ?_, fun steps s => ?_⟩
  · obtain ⟨h, s₁, ran, grown⟩ := History.grows_performAll History.lineal_nil steps s
    refine ⟨h, s₁, ran, fun j node given key answer => grown.lineal.value?_eq_iff given, ?_⟩
    intro more
    obtain ⟨h₂, s₂, ran, later⟩ := History.grows_performAll grown.lineal more s₁
    refine ⟨h₂, s₂, ran, fun j node given => ?_⟩
    have old := (List.getElem?_eq_some_iff.mp given).1
    refine ⟨(Forest.getElem?_kept later.kept old).trans given, fun key answer => ?_⟩
    exact Forest.nearest_kept_iff grown.lineal.ranked later.kept old
  · obtain ⟨h, s₁, ran, grown⟩ := History.grows_performAll History.lineal_nil steps s
    refine ⟨h, s₁, ran, fun j node given channel answer => grown.lineal.value?_eq_iff given, ?_⟩
    intro α store mode work n p caller inner s₂ t given kept genuine turn
    obtain ⟨handle, rfl, fresh⟩ := turn.bound
    refine ⟨handle, rfl, fun more once => History.grown_bind grown.lineal given kept ?_ once t⟩
    -- A context that carries the handle already would have it from an attempt before this one.
    intro i attached
    obtain ⟨node, there, origin⟩ := Option.map_eq_some_iff.mp attached
    have carried := grown.lineal.value?_of_attached there origin
    have older := (genuine i node there store.channel handle carried).lease_lt
    exact Nat.not_lt_of_le fresh older

open Rehearsal in
/-- The tenant of a request is shadowed further down, and a transaction is bound higher up. It is
active below the deadline that the unit of work sets, where the tenant is still the outer one; it is
not in the context with the other tenant, nor in a newer one derived from that. -/
theorem attachments_scoped_bound :
    let player : Player := {
      name := "ledger", retries := fun _ => false, policy := fun _ => .single }
    let work : UnitOfWork (host Nat) Nat := fun _ => pure 7
    let s : State (host Nat) := { host := {} }
    let caller : RequestContext := Context.withValue .background (.text "tenant") "acme"
    let steps : List (Step Slot.Value) :=
      [.background, .withValue 0 (.text "tenant") "acme", .withValue 1 (.text "tenant") "globex"]
    ∃ (handle : Handle) (inner : RequestContext) (t s' : State (host Nat))
      (h : History Slot.Value) (derived shadowed newer : Node Slot.Value),
      player.store.AttemptTurns .readWrite caller work 1 s inner t ∧
      inner.active? ⟨0⟩ = some handle ∧
      (History.performAll {} (steps ++ [.withValue 1 (.transaction ⟨0⟩) handle, .withDeadline 3 20,
        .withValue 2 (.number "tries") 2])).run t = (.ok h, s') ∧
      h.forest[2]? = some shadowed ∧ h.forest[4]? = some derived ∧ h.forest[5]? = some newer ∧
      derived.context.value? (.text "tenant") = some "acme" ∧
      RequestContext.active? derived.context ⟨0⟩ = some handle ∧
      RequestContext.active? shadowed.context ⟨0⟩ ≠ some handle ∧
      RequestContext.active? newer.context ⟨0⟩ ≠ some handle := by
  intro player work s caller steps
  let other : RequestContext := Context.withValue caller (.text "tenant") "globex"
  let forest : Forest Slot.Value := [⟨none, .background, .background⟩,
    ⟨some 0, .value (.text "tenant") "acme", caller⟩,
    ⟨some 1, .value (.text "tenant") "globex", other⟩]
  have made : (History.performAll {} steps).run s = (.ok ⟨forest, [], []⟩, s) := rfl
  have genuine : ∀ (j : Nat) (node : Node Slot.Value), forest[j]? = some node →
      RequestContext.Genuine node.context s := by
    intro j node given
    rcases j with _ | _ | _ | j
    · cases given
      exact .background
    · cases given
      exact RequestContext.Genuine.background.derives (.text "tenant" "acme" .refl)
    · cases given
      exact RequestContext.Genuine.background.derives
        (.text "tenant" "globex" (.text "tenant" "acme" .refl))
    · cases given
  have given : ((caller.guard (player.store.request .readWrite)).run.run s).1 =
      .ok (.ok ⟨"ledger", 1⟩) := by cbv
  have turn : player.store.AttemptTurns .readWrite caller work 1 s _ _ :=
    .begun (Prod.ext given rfl) .first
  obtain ⟨h, s₁, ran, -, bound⟩ := (attachments_scoped (host Nat)).2 steps s
  rw [made] at ran
  cases ran
  obtain ⟨handle, same, visible⟩ := bound player.store .readWrite work 1 1 _ _ s _ rfl (by decide)
    genuine turn
  obtain ⟨⟨grown, canceled, dropped⟩, s₂, ran, -, active⟩ := visible
    [.withDeadline 3 20, .withValue 2 (.number "tries") 2] (by simp)
  let unit := caller.bind ⟨0⟩ handle
  let shadowed : Node Slot.Value := ⟨some 1, .value (.text "tenant") "globex", other⟩
  let derived : Node Slot.Value := ⟨some 3, .deadline 20, unit.withDeadline 20⟩
  let newer : Node Slot.Value :=
    ⟨some 2, .value (.number "tries") 2, Context.withValue other (.number "tries") 2⟩
  let grown' : Forest Slot.Value :=
    forest ++ [⟨some 1, .value (.transaction ⟨0⟩) handle, unit⟩, derived, newer]
  obtain rfl : grown = grown' := by
    cases ran
    rfl
  have here : Forest.Above grown' 3 3 := .self (by simp [grown', forest])
  -- The way down to the context with the other tenant is 0, 1, 2.
  have elsewhere : ¬ Forest.Above grown' 3 2 := by
    intro above
    obtain same | ⟨_, ⟨⟩, above⟩ := (Forest.above_iff rfl).mp above
    · exact absurd same (by decide)
    obtain same | ⟨_, ⟨⟩, above⟩ := (Forest.above_iff rfl).mp above
    · exact absurd same (by decide)
    obtain same | ⟨_, ⟨⟩, -⟩ := (Forest.above_iff rfl).mp above
    exact absurd same (by decide)
  refine ⟨handle, _, _, s₂, ⟨grown', canceled, dropped⟩, derived, shadowed, newer, turn, ?_, ran,
    rfl, rfl, rfl, rfl, ?_, ?_, ?_⟩
  · rw [same]
    exact RequestContext.active?_bind_self _ _ _
  · refine (active 4 _ rfl).mpr ⟨.child rfl rfl here, fun k other attached => ?_⟩
    -- There is no other transaction in the forest.
    obtain ⟨-, attached⟩ := attached
    rcases k with _ | _ | _ | _ | _ | _ | k
    · cases attached
    · cases attached
    · cases attached
    · exact here
    · cases attached
    · cases attached
    · cases attached
  · intro carried
    exact elsewhere ((active 2 _ rfl).mp carried).1
  · intro carried
    obtain same | ⟨_, ⟨⟩, above⟩ := (Forest.above_iff rfl).mp ((active 5 _ rfl).mp carried).1
    · exact absurd same (by decide)
    · exact elsewhere above

end SessionKeeper
