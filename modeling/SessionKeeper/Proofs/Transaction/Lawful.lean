import SessionKeeper.Proofs.Program.Footprint
import SessionKeeper.Transaction.Store

/-!
Lawful stores. A primitive of a store is tame: it answers instead of panicking, and keeps to the
connection that it is given or has opened. What a primitive is made of is tame, and so is what is
made of tame parts.

`Store.Lawful` asks that of each primitive, and of `start` that the connection it gives is one that
it has opened. It is all that is asked of a store in most of what is proved of attempts, so none of
that depends on what a database sends or in what order.
-/

namespace SessionKeeper

variable {H : Host} {α β : Type}

namespace Program

/-- A primitive of a store: it does not panic, and records only `may`, on connections in `held` or
its own. -/
structure Tame (may : Event H.Note → Prop) (held : List Connection) (p : Program H α) :
    Prop where
  confined : p.Confined (.own may) held
  calm : p.Calm

namespace Tame

variable {may may' : Event H.Note → Prop} {held held' : List Connection} {p : Program H α}

theorem done (a : α) : (Program.done a : Program H α).Tame may held := ⟨trivial, trivial⟩

theorem bind {f : α → Program H β} (hp : p.Tame may held) (hf : ∀ a, (f a).Tame may held) :
    (p.bind f).Tame may held :=
  ⟨hp.confined.bind fun a => (hf a).confined, hp.calm.bind fun a => (hf a).calm⟩

theorem onDrop {tidy : Program H Unit} (h : p.Tame may held) (ht : tidy.Tame may held) :
    (p.onDrop tidy).Tame may held :=
  ⟨h.confined.onDrop ht.confined, h.calm.onDrop ht.calm⟩

theorem ask (r : Request H) (within : r.Within (.own may) held) :
    (Program.ask r .done).Tame may held :=
  ⟨⟨within, fun _ => trivial⟩, fun _ => trivial⟩

theorem modifyGet (f : H.State → α × H.State) : (Program.modifyGet f).Tame may held :=
  ⟨⟨trivial, fun _ => ⟨trivial, fun _ => trivial⟩⟩, fun _ _ => trivial⟩

theorem connect {store : String} {f : Connection → Program H α}
    (hf : ∀ c, (f c).Tame may (c :: held)) : ((Program.connect store).bind f).Tame may held :=
  ⟨⟨trivial, fun c => (hf c).confined⟩, fun c => (hf c).calm⟩

theorem wait {length : Duration} {signals : List Signal} {next : Wake → Program H α}
    (h : ∀ wake, (next wake).Tame may held) : (Program.wait length signals next).Tame may held :=
  ⟨fun wake => (h wake).confined, fun wake => (h wake).calm⟩

theorem dropped : (Program.stop .dropped : Program H α).Tame may held := ⟨trivial, rfl⟩

theorem sleep (length : Duration) : (Program.sleep length : Program H Unit).Tame may held := by
  apply wait
  intro wake
  cases wake with
  | elapsed => exact done ()
  | fired place reason => exact done ()
  | dropped => exact dropped

theorem forM {γ : Type} {f : γ → Program H Unit} (h : ∀ x, (f x).Tame may held) (xs : List γ) :
    (xs.forM f).Tame may held := by
  induction xs with
  | nil => exact done ()
  | cons x xs ih => exact (h x).bind fun _ => ih

end Tame

end Program

/-- Each primitive of the store keeps to the connection that it is given, and answers instead of
panicking. -/
structure Store.Lawful (store : Store H) : Prop where
  start : ∀ mode, (store.start mode).run.Tame Event.Plain []
  /-- A connection that the store gives was opened for it. -/
  start_opens : ∀ mode,
    (store.start mode).run.Gives (fun opened r => ∀ c, r = .ok c → c ∈ opened) []
  prepare : ∀ mode c, (store.prepare mode c).run.Tame Event.Plain [c]
  restart : ∀ mode c failure n, (store.restart mode c failure n).run.Tame Event.Upkeep [c]
  commit : ∀ c, (store.commit c).run.Tame Event.Plain [c]
  rollback : ∀ c, (store.rollback c).run.Tame Event.Plain [c]

end SessionKeeper
