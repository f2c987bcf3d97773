import Nslab.Backend.Matching

/-! Which changes of the wiring are told from the record of the links. A link that was
made anew and an end that was moved to another link both carry another id. -/

namespace Nslab

open Collections

variable {plan : TopologyPlan} {inventory : LiveInventory} {recorded : Dict String Document}

/-- One id at both ends of a link, observed and recorded, and at no other veth. -/
structure LinkPlan.Carries (link : LinkPlan) (inventory : LiveInventory) (recorded : Dict String Document)
    (linkId : String) : Prop where
  filled : linkId ≠ ""
  observed : ∀ endpoint ∈ link.endpoints, inventory.linkId? endpoint = some linkId
  recorded : ∀ endpoint ∈ link.endpoints, recordedLinkId? recorded endpoint = some linkId
  group : SameSet (inventory.linkGroup linkId) link.group

/-- The loop accepts links that are wired, each with an id that was not seen before. -/
theorem linksMatchFrom_sound {seen : List String} {links : List LinkPlan} (matched : linksMatchFrom inventory seen links = true) :
    (∀ link ∈ links, link.Wired inventory) ∧ (links.map fun link => inventory.linkId? link.left).Nodup ∧
      ∀ link ∈ links, ∀ linkId ∈ seen, inventory.linkId? link.left ≠ some linkId := by
  induction links generalizing seen with
  | nil => simp
  | cons link rest ih =>
    rw [linksMatchFrom] at matched
    split at matched
    next linkId other left right =>
      split at matched
      · cases matched
      next own =>
      split at matched
      · cases matched
      next grouped =>
      obtain ⟨same, unseen⟩ := not_or.mp own
      have wired : link.Wired inventory := ⟨linkId, left, (not_not.mp same) ▸ right, not_not.mp grouped⟩
      obtain ⟨links, distinct, fresh⟩ := ih matched
      refine ⟨List.forall_mem_cons.mpr ⟨wired, links⟩, ?_, ?_⟩
      · rw [List.map_cons, List.nodup_cons]
        refine ⟨fun member => ?_, distinct⟩
        obtain ⟨next, inside, equal⟩ := List.mem_map.mp member
        exact fresh next inside linkId List.mem_cons_self (equal.trans left)
      · refine List.forall_mem_cons.mpr ⟨fun before member equal => ?_, fun next inside before member => ?_⟩
        · rw [left, Option.some.injEq] at equal
          exact unseen (equal ▸ member)
        · exact fresh next inside before (List.mem_cons_of_mem _ member)
    next => cases matched

theorem linksMatch_sound (matched : linksMatch plan inventory = true) :
    plan.Wired inventory ∧ (plan.links.map fun link => inventory.linkId? link.left).Nodup := by
  rw [linksMatch, Bool.and_eq_true, List.all_eq_true] at matched
  obtain ⟨links, distinct, _⟩ := linksMatchFrom_sound matched.2
  exact ⟨⟨matched.1, links⟩, distinct⟩

theorem linkId?_filled {endpoint : EndpointPlan} {linkId : String} (observed : inventory.linkId? endpoint = some linkId) :
    linkId ≠ "" ∧ (inventory.interface? endpoint).bind (·.linkId) = some linkId := by
  rw [LiveInventory.linkId?, Option.filter_eq_some_iff] at observed
  exact ⟨of_decide_eq_true observed.2, observed.1⟩

/-- The loop accepts links whose recorded ids are those observed. -/
theorem recordedLinksMatchFrom_sound {seen : List String} {links : List LinkPlan}
    (matched : recordedLinksMatchFrom inventory recorded seen links = true) {link : LinkPlan} (member : link ∈ links)
    {endpoint : EndpointPlan} (inside : endpoint ∈ link.endpoints) :
    ∃ linkId, recordedLinkId? recorded endpoint = some linkId ∧
      (inventory.interface? endpoint).bind (·.linkId) = some linkId := by
  induction links generalizing seen with
  | nil => cases member
  | cons first rest ih =>
    rw [recordedLinksMatchFrom] at matched
    split at matched
    next linkId other left right =>
      split at matched
      · cases matched
      next leftObserved =>
      split at matched
      · cases matched
      next rightObserved =>
      split at matched
      · cases matched
      rcases List.mem_cons.mp member with here | later
      · subst here
        simp only [LinkPlan.endpoints, List.mem_cons, List.not_mem_nil, or_false] at inside
        rcases inside with here | here
        · exact ⟨linkId, here ▸ left, here ▸ not_not.mp leftObserved⟩
        · exact ⟨other, here ▸ right, here ▸ not_not.mp rightObserved⟩
      · exact ih matched later
    next => cases matched

/-- A match finds one id for each planned link, another one for each. -/
theorem carries_of_match (matched : recordedLinkIdsMatchInventory plan inventory recorded = true) {link : LinkPlan}
    (member : link ∈ plan.links) : ∃ linkId, link.Carries inventory recorded linkId := by
  rw [recordedLinkIdsMatchInventory, Bool.and_eq_true] at matched
  obtain ⟨linkId, left, right, group⟩ := (linksMatch_sound matched.1).1.links link member
  have observed : ∀ endpoint ∈ link.endpoints, inventory.linkId? endpoint = some linkId := by
    intro endpoint inside
    simp only [LinkPlan.endpoints, List.mem_cons, List.not_mem_nil, or_false] at inside
    rcases inside with here | here
    · rw [here, left]
    · rw [here, right]
  refine ⟨linkId, (linkId?_filled left).1, observed, fun endpoint inside => ?_, group⟩
  obtain ⟨other, kept, live⟩ := recordedLinksMatchFrom_sound matched.2 member inside
  rw [(linkId?_filled (observed endpoint inside)).2] at live
  rw [kept, live]

/-- Ends have the same id just when they belong to the same link. -/
theorem linkId?_eq_iff (matched : recordedLinkIdsMatchInventory plan inventory recorded = true) {first second : Nat}
    (below : first < plan.links.length) (under : second < plan.links.length) {endpoint other : EndpointPlan}
    (inside : endpoint ∈ plan.links[first].endpoints) (within : other ∈ plan.links[second].endpoints) :
    inventory.linkId? endpoint = inventory.linkId? other ↔ first = second := by
  obtain ⟨firstId, firstCarries⟩ := carries_of_match matched (List.getElem_mem below)
  obtain ⟨secondId, secondCarries⟩ := carries_of_match matched (List.getElem_mem under)
  rw [recordedLinkIdsMatchInventory, Bool.and_eq_true] at matched
  have distinct := (linksMatch_sound matched.1).2
  rw [firstCarries.observed endpoint inside, secondCarries.observed other within]
  have left : inventory.linkId? plan.links[first].left = some firstId := firstCarries.observed _ List.mem_cons_self
  have right : inventory.linkId? plan.links[second].left = some secondId := secondCarries.observed _ List.mem_cons_self
  rw [← left, ← right]
  have positions := @List.Nodup.getElem_inj_iff _ _ distinct first (by simpa using below) second (by simpa using under)
  simpa only [List.getElem_map] using positions

/-- A match means that every veth carries an id, that the ends of each planned link carry its recorded id and no other veth
does, and that planned links differ in their ids. Ends that are paired in another way, and ends with an id that is not the
recorded one, are told from it. -/
theorem recorded_links_detect_rewiring (plan : TopologyPlan) (inventory : LiveInventory) (recorded : Dict String Document) :
    (recordedLinkIdsMatchInventory plan inventory recorded = true →
      (∀ veth ∈ inventory.veths, ∃ linkId, veth.2.2.linkId = some linkId ∧ linkId ≠ "") ∧
      (∀ link ∈ plan.links, ∃ linkId, link.Carries inventory recorded linkId) ∧
      (plan.links.map fun link => inventory.linkId? link.left).Nodup) ∧
    (∀ first second (below : first < plan.links.length) (under : second < plan.links.length),
      ∀ endpoint ∈ plan.links[first].endpoints, ∀ other ∈ plan.links[second].endpoints,
        ¬ (inventory.linkId? endpoint = inventory.linkId? other ↔ first = second) →
          recordedLinkIdsMatchInventory plan inventory recorded = false) ∧
    (∀ link ∈ plan.links, ∀ endpoint ∈ link.endpoints, inventory.linkId? endpoint ≠ recordedLinkId? recorded endpoint →
      recordedLinkIdsMatchInventory plan inventory recorded = false) := by
  refine ⟨fun matched => ⟨?_, fun link member => carries_of_match matched member, ?_⟩, ?_, ?_⟩
  · intro veth member
    rw [recordedLinkIdsMatchInventory, Bool.and_eq_true] at matched
    obtain ⟨linkId, found, filled⟩ := (Option.any_eq_true _ _).mp ((linksMatch_sound matched.1).1.identified veth member)
    exact ⟨linkId, found, of_decide_eq_true filled⟩
  · rw [recordedLinkIdsMatchInventory, Bool.and_eq_true] at matched
    exact (linksMatch_sound matched.1).2
  · intro first second below under endpoint inside other within differs
    rw [Bool.eq_false_iff]
    exact fun matched => differs (linkId?_eq_iff matched below under inside within)
  · intro link member endpoint inside differs
    rw [Bool.eq_false_iff]
    intro matched
    obtain ⟨linkId, carries⟩ := carries_of_match matched member
    exact differs ((carries.observed endpoint inside).trans (carries.recorded endpoint inside).symm)

end Nslab
