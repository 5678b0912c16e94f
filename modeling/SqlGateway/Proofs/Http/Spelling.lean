import SqlGateway.Program.Start
import SqlGateway.Proofs.Registry.Mutation
import SqlGateway.Proofs.Uuid.Spelling

/-! Identifiers in requests. A text that denotes an identifier is taken as it stands and looked up
    as it stands, so of all the texts of an identifier the one that it is registered under is the
    only one that finds the connection:

        registered   550e8400-e29b-41d4-a716-446655440000
        sent         550e8400-e29b-41d4-a716-446655440000     found
                     550E8400-E29B-41D4-A716-446655440000     not found
                     550e8400e29b41d4a716446655440000         not found
                     not-an-identifier                        refused before the lookup          -/

namespace SqlGateway.Http

/-- What a request wants of one connection. -/
inductive Errand where
  | edit (info : ConnectionInfo)
  | remove
  | tables
  | routines
  | query

namespace Errand

/-- The resource that the request names, with an identifier in it. -/
def route (id : String) : Errand → Route
  | .edit _ | .remove => .database id
  | .tables => .tables id
  | .routines => .routines id
  | .query => .query id

/-- The request is sent for the errand: details that it brings can be read. -/
def Sent (r : Request) : Errand → Prop
  | .edit info => r.method = "PATCH" ∧ r.read ConnectionInfo.decoder = .ok info
  | .remove => r.method = "DELETE"
  | .tables | .routines | .query => True

variable {σ P T : Type}

/-- The errand on a connection that was found under an identifier. -/
def run (s : Service σ P T) (r : Request) (only : Option String) (id : String) (h : Handle P) :
    Errand → Work (Gateway σ P) Failure Response
  | .edit info => do
    let pool ← Gateway.outward (s.store.readCommitted none fun tx => do
      s.store.update (some tx) id info
      s.databases.toOpener.connect info)
    Gateway.onHandle h (Focus.install s.databases.toOpener info pool)
    return .done
  | .remove => do
    Gateway.outward (s.store.delete none id)
    Gateway.onHandle h (Focus.close s.databases.toOpener)
    Work.change fun g => { g with handles := forget id g.handles }
    return .done
  | .tables => do
    let found ← Gateway.onHandle h (Focus.tables s.databases (some s.limit) only)
    return .ok (.arr (found.map Table.toJson))
  | .routines => do
    let found ← Gateway.onHandle h (Focus.routines s.databases (some s.limit))
    return .ok (.arr (found.map Routine.toJson))
  | .query => do
    let q ← s.readQuery r
    return .ok (← Gateway.onHandle h (Focus.run s.databases s.limit q)).toJson

end Errand

theorem checkIdentifier_of_ofText? {t : String} {u : Uuid} (h : Uuid.ofText? t = some u) :
    checkIdentifier t = .ok t := by
  rw [checkIdentifier, if_pos (by rw [h, Option.isSome_some])]

namespace Service

variable {σ P T : Type} {s : Service σ P T} {g : Gateway σ P} {r : Request} {only : Option String}
  {e : Errand} {t : String}

/-- Every errand begins with the lookup, under the text that was sent. -/
theorem answer_eq (hc : checkIdentifier t = .ok t) (hs : e.Sent r) :
    s.answer r only (e.route t) = Gateway.find t >>= e.run s r only t := by
  cases e with
  | edit info =>
    obtain ⟨hm, hr⟩ := hs
    have hi : s.readInfo r = pure info := by
      rw [readInfo, hr]
      rfl
    simp only [Errand.route, answer, hc, if_pos hm, hi]
    show (pure info >>= Gateway.edit s.store s.databases.toOpener t : Work _ _ _) >>= _ = _
    rw [pure_bind, Gateway.edit]
    simp only [bind_assoc]
    rfl
  | remove =>
    have hm : r.method ≠ "PATCH" := by rw [show r.method = "DELETE" from hs]; decide
    simp only [Errand.route, answer, hc, if_neg hm]
    show Gateway.remove s.store s.databases.toOpener t >>= _ = _
    rw [Gateway.remove]
    simp only [bind_assoc]
    rfl
  | tables =>
    simp only [Errand.route, answer, hc]
    rfl
  | routines =>
    simp only [Errand.route, answer, hc]
    rfl
  | query =>
    simp only [Errand.route, answer, hc]
    rfl

theorem answer_of_known {h : Handle P} (hc : checkIdentifier t = .ok t) (hs : e.Sent r)
    (hl : g.handle? t = some h) : s.answer r only (e.route t) g = e.run s r only t h g := by
  rw [answer_eq hc hs]
  exact Work.bind_of_done (Gateway.find_eq_done_iff.mpr ⟨hl, rfl⟩)

theorem answer_of_unknown (hc : checkIdentifier t = .ok t) (hs : e.Sent r)
    (hl : g.handle? t = none) :
    s.answer r only (e.route t) g = (.failed (.connectionNotFound t), g) := by
  have hfind : Gateway.find t g = (.failed (.connectionNotFound t), g) := by
    rw [Gateway.find_eq, show lookup g.handles t = none from hl]
  rw [answer_eq hc hs]
  exact Work.bind_of_failed hfind

variable {u : Uuid} {h : Handle P}

/-- Where connections are registered under the texts of identifiers, no other text of an identifier
    is registered. -/
theorem handle?_of_ofText? (hids : ∀ k ∈ g.handles, ∃ w : Uuid, w.value < 2 ^ 128 ∧ k.id = w.text)
    (ht : Uuid.ofText? t = some u) (hne : t ≠ u.text) : g.handle? t = none := by
  cases hl : g.handle? t with
  | none => rfl
  | some k =>
    obtain ⟨w, hw, hk⟩ := hids k (List.mem_of_find?_eq_some hl)
    rw [id_of_lookup hl] at hk
    have hread := Uuid.ofText?_text hw
    rw [← hk, ht] at hread
    exact absurd (hk.trans (congrArg Uuid.text (Option.some.inj hread).symm)) hne

/-- A text is taken for the identifier of a connection if it is one of its spellings, in any letter
    case. The lookup is under the text as it stands: it finds the connection if that is the very
    text the connection is registered under, and every errand goes on with it then. Under any other
    spelling nothing is found, and every errand ends with that. -/
theorem found_by_own_text_alone (s : Service σ P T)
    (hids : ∀ k ∈ g.handles, ∃ w : Uuid, w.value < 2 ^ 128 ∧ k.id = w.text)
    (hu : u.value < 2 ^ 128) (hh : g.handle? u.text = some h) :
    (∀ t, Uuid.ofText? t = some u ↔ t.toList.map Char.toLower ∈ u.spellings) ∧
    ∀ t, Uuid.ofText? t = some u →
      checkIdentifier t = .ok t ∧
      g.handle? t = (if t = u.text then some h else none) ∧
      ∀ e r only, Errand.Sent r e → s.answer r only (e.route t) g =
        if t = u.text then e.run s r only t h g else (.failed (.connectionNotFound t), g) := by
  refine ⟨fun t => Uuid.ofText?_eq_some_iff.trans (and_iff_right hu), fun t ht => ?_⟩
  have hc := checkIdentifier_of_ofText? ht
  by_cases hown : t = u.text
  · have hl : g.handle? t = some h := hown ▸ hh
    simp only [if_pos hown]
    exact ⟨hc, hl, fun e r only hs => answer_of_known hc hs hl⟩
  · have hl : g.handle? t = none := handle?_of_ofText? hids ht hown
    simp only [if_neg hown]
    exact ⟨hc, hl, fun e r only hs => answer_of_unknown hc hs hl⟩

/-- A registry of one file. -/
def oneShop : Gateway Site PoolId where
  outside := {}
  handles := [⟨"550e8400-e29b-41d4-a716-446655440000", .file "shop" "shop.db", none⟩]

/-- The digits alone are taken for the identifier, and nothing is removed under them. -/
theorem found_by_own_text_alone_digits :
    let u : Uuid := ⟨0x550e8400e29b41d4a716446655440000⟩
    let t := "550e8400e29b41d4a716446655440000"
    oneShop.handle? u.text = oneShop.handles.head? ∧
    checkIdentifier t = .ok t ∧ oneShop.handle? t = none ∧
    (serviceOn ⟨0, .sqlite⟩ 5).answer ⟨"DELETE", "", none, ""⟩ none (.database t) oneShop =
      (.failed (.connectionNotFound t), oneShop) := by
  intro u t
  have htext : u.text = "550e8400-e29b-41d4-a716-446655440000" := by decide +kernel
  have hids : ∀ k ∈ oneShop.handles, ∃ w : Uuid, w.value < 2 ^ 128 ∧ k.id = w.text := by
    intro k hk
    obtain rfl := List.mem_singleton.mp hk
    exact ⟨u, by decide, htext.symm⟩
  have hh : oneShop.handle? u.text = oneShop.handles.head? := by decide +kernel
  have hne : t ≠ u.text := by rw [htext]; decide
  obtain ⟨hc, hl, ha⟩ :=
    (found_by_own_text_alone (serviceOn ⟨0, .sqlite⟩ 5) hids (by decide) hh).2 t (by decide +kernel)
  rw [if_neg hne] at hl
  have ha := ha .remove ⟨"DELETE", "", none, ""⟩ none rfl
  rw [if_neg hne] at ha
  exact ⟨hh, hc, hl, ha⟩

/-- The text in upper case is taken for the same identifier and does not find the connection. -/
theorem not_found_by_upper_case :
    let t := "550E8400-E29B-41D4-A716-446655440000"
    Uuid.ofText? t = Uuid.ofText? "550e8400-e29b-41d4-a716-446655440000" ∧
    (oneShop.handle? "550e8400-e29b-41d4-a716-446655440000").isSome ∧
    checkIdentifier t = .ok t ∧ oneShop.handle? t = none ∧
    (serviceOn ⟨0, .sqlite⟩ 5).answer ⟨"GET", "", none, ""⟩ none (.tables t) oneShop =
      (.failed (.connectionNotFound t), oneShop) := by
  intro t
  have hc : checkIdentifier t = .ok t := by
    rw [checkIdentifier, if_pos (by decide +kernel)]
  have hl : oneShop.handle? t = none := by decide +kernel
  exact ⟨by decide +kernel, by decide +kernel, hc, hl,
    answer_of_unknown (e := .tables) hc trivial hl⟩

end Service

end SqlGateway.Http
