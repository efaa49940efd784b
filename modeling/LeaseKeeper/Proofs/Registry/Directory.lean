/-
  What becomes of the instances in an answer.

  What an answer about all applications lists (`Enumerates`) is said without the decoders: for
  each application its name and the hosts of its instances, in the order of the document.  Reading
  an answer finds what it lists (`enumerates_iff`).

  A client then puts the applications into a map, one after the other, and an application with a
  name that was there before takes its place.  So of each name the last application is left, and
  what the applications before it had is lost (`RegistryClient.apps_last`).  If no name is
  repeated, nothing is.

  The two halves do not know of each other.  The relation is built like the document, one
  definition for a field that holds one thing or a list (`Holds`) and one for each record around
  it, and its equivalence with the decoders has the same shape.  The map is a fold over the
  entries, so of a list split at the last entry of a name only that entry and what follows it have
  to be looked at (`SortedMap.exists_last`).
-/
import LeaseKeeper.Proofs.Registry.Addressing
import LeaseKeeper.Proofs.Registry.Listings

namespace LeaseKeeper

/-! ## Maps in which the last entry counts -/

namespace SortedMap

variable {α : Type} {name : String}

/-- Looking for a name, entry by entry. -/
theorem find?_cons (e : String × α) (rest : List (String × α)) (name : String) :
    ((e :: rest).find? fun e => e.1 = name) =
      if e.1 = name then some e else rest.find? fun e => e.1 = name := by
  by_cases h : e.1 = name
  · rw [List.find?_cons_of_pos (by simpa using h), if_pos h]
  · rw [List.find?_cons_of_neg (by simpa using h), if_neg h]

/-- The first entry that is found after one is put in its place: induction on the entries.  The
    new one stands before an entry, or takes its place, or goes further on. -/
theorem find?_insertEntry (key : String) (value : α) (name : String) (entries : List (String × α)) :
    ((insertEntry key value entries).find? fun e => e.1 = name) =
      if key = name then some (key, value) else entries.find? fun e => e.1 = name := by
  induction entries with
  | nil => exact find?_cons (key, value) [] name
  | cons e rest ih =>
    unfold insertEntry
    split
    · -- it is put in front
      exact find?_cons (key, value) (e :: rest) name
    · split
      · rename_i hkey
        -- it takes the place of an entry with the same key
        rw [find?_cons, find?_cons]
        by_cases hname : key = name
        · rw [if_pos hname, if_pos hname]
        · rw [if_neg hname, if_neg hname, if_neg fun h => hname (hkey.trans h)]
      · rename_i hkey
        -- it goes further on, and this entry has another key
        rw [find?_cons, find?_cons, ih]
        by_cases hname : key = name
        · rw [if_pos hname, if_pos hname, if_neg fun h => hkey (hname.trans h.symm)]
        · rw [if_neg hname, if_neg hname]

/-- **What is under a name after an entry is put in**: its value under its own name, and under any other
    what was there before. -/
theorem get?_insert (m : SortedMap α) (key : String) (value : α) (name : String) :
    (m.insert key value).get? name = if key = name then some value else m.get? name := by
  unfold get?
  show ((insertEntry key value m.entries).find? _).map _ = _
  rw [find?_insertEntry]
  split <;> rfl

/-- Entries of other names change nothing: induction on them. -/
theorem get?_foldl_insert {entries : List (String × α)} (h : name ∉ entries.map Prod.fst)
    (m : SortedMap α) : (entries.foldl (fun m e => m.insert e.1 e.2) m).get? name = m.get? name := by
  induction entries generalizing m with
  | nil => rfl
  | cons e rest ih =>
    obtain ⟨hother, hrest⟩ := not_or.1 (mt List.mem_cons.2 h)
    rw [List.foldl_cons, ih hrest, get?_insert, if_neg (Ne.symm hother)]

/-- **The last entry of a name counts.** -/
theorem get?_ofList {front back : List (String × α)} (value : α)
    (h : name ∉ back.map Prod.fst) :
    (ofList (front ++ (name, value) :: back)).get? name = some value := by
  unfold ofList
  rw [List.foldl_append, List.foldl_cons, get?_foldl_insert h, get?_insert, if_pos rfl]

/-- A name that no entry has is not found. -/
theorem get?_ofList_none {entries : List (String × α)} (h : name ∉ entries.map Prod.fst) :
    (ofList entries).get? name = none :=
  get?_foldl_insert h empty

/-- A name that some entry has stands in a last one: induction on the entries.  The last one is
    further on, or it is this one. -/
theorem exists_last {entries : List (String × α)} (h : name ∈ entries.map Prod.fst) :
    ∃ front value back, entries = front ++ (name, value) :: back ∧ name ∉ back.map Prod.fst := by
  induction entries with
  | nil => cases h
  | cons e rest ih =>
    by_cases hrest : name ∈ rest.map Prod.fst
    · obtain ⟨front, value, back, hsplit, hlast⟩ := ih hrest
      exact ⟨e :: front, value, back, congrArg (e :: ·) hsplit, hlast⟩
    · obtain rfl : name = e.1 := (List.mem_cons.1 h).resolve_right hrest
      exact ⟨[], e.2, rest, rfl, hrest⟩

/-- **The names in a map** are those of its entries: nothing else comes in, and nothing goes out. -/
theorem get?_ofList_isSome {entries : List (String × α)} :
    ((ofList entries).get? name).isSome = true ↔ name ∈ entries.map Prod.fst := by
  by_cases h : name ∈ entries.map Prod.fst
  · obtain ⟨front, value, back, rfl, hlast⟩ := exists_last h
    rw [get?_ofList value hlast]
    exact iff_of_true rfl h
  · rw [get?_ofList_none h]
    exact iff_of_false nofun h

end SortedMap

/-! ## What an answer lists -/

/-- Decoding every item gives what the items are, one by one: induction on the items.  One that
    is not decoded makes the whole list fail, as one that is nothing makes the relation fail. -/
theorem mapM_eq_some_iff {α β : Type} {decode : α → Option β} {Is : α → β → Prop}
    (hdecode : ∀ x b, decode x = some b ↔ Is x b) {items : List α} {bs : List β} :
    items.mapM decode = some bs ↔ List.Forall₂ Is items bs := by
  induction items generalizing bs with
  | nil =>
    constructor
    · rintro ⟨⟩
      exact .nil
    · rintro ⟨⟩
      rfl
  | cons x items ih =>
    rw [List.mapM_cons, List.forall₂_cons_left_iff]
    constructor
    · intro h
      obtain ⟨b, hb, h⟩ := Option.bind_eq_some_iff.1 h
      obtain ⟨rest, hrest, h⟩ := Option.bind_eq_some_iff.1 h
      exact ⟨b, rest, (hdecode x b).1 hb, ih.1 hrest, (Option.some.inj h).symm⟩
    · rintro ⟨b, rest, hb, hrest, rfl⟩
      rw [(hdecode x b).2 hb, ih.2 hrest]
      rfl

/-- **What a field holds where things are listed**: one of them, a list of them, or nothing.
    Everything in it must have a meaning, which is asked before it is decided whether it is one
    or many. -/
inductive Holds {α : Type} (Is : Json → α → Prop) : Option Json → List α → Prop where
  | absent : Holds Is none []
  | single {j : Json} {a : α} (hread : j.isReadable = true) (h : Is j a) : Holds Is (some j) [a]
  | list {items : List Json} {as : List α} (hread : (Json.arr items).isReadable = true)
      (h : List.Forall₂ Is items as) : Holds Is (some (.arr items)) as

/-- **An instance on a host.**  Only the name of its host is read, and it must be there once. -/
def RunsOn (j : Json) (host : String) : Prop :=
  ∃ f, j.record? ["hostName"] = some f ∧ f "hostName" = some (.str host)

/-- **An application with a name**, and with instances on hosts.  The instances may be missing,
    the name may not. -/
def Describes (j : Json) (e : String × List String) : Prop :=
  ∃ f, j.record? ["name", "instance"] = some f ∧ f "name" = some (.str e.1) ∧
    Holds RunsOn (f "instance") e.2

/-- **What an answer about all applications lists.**  The outer member may be missing, and then
    nothing is listed. -/
inductive Enumerates : Json → List (String × List String) → Prop where
  | nothing {j : Json} {f : Json.Fields} (hj : j.record? ["applications"] = some f)
      (hnone : f "applications" = none) : Enumerates j []
  | applications {j inner : Json} {f g : Json.Fields} {l : List (String × List String)}
      (hj : j.record? ["applications"] = some f) (hinner : f "applications" = some inner)
      (hg : inner.record? ["application"] = some g) (h : Holds Describes (g "application") l) :
    Enumerates j l

section

variable {α β : Type} {decode : Json → Option α} {Is : Json → α → Prop}

/-- What is made of a value is no less unambiguous. -/
theorem OneOrMany.Unambiguous.map (h : Unambiguous decode) (f : α → β) :
    Unambiguous fun j => (decode j).map f := by
  intro j hj
  rw [OneOrMany.list?_map, h j (by simpa using hj)]
  rfl

/-- **A field is read where it holds something**, and what it holds is read.  A value is taken
    for one thing if it can be decoded as that, and for a list only otherwise; since no value is
    both, this choice loses nothing. -/
theorem holds_iff (hplain : OneOrMany.Unambiguous decode)
    (hdecode : ∀ j a, decode j = some a ↔ Is j a) {field : Option Json} {as : List α} :
    Json.orDefault field [] (OneOrMany.values? decode) = some as ↔ Holds Is field as := by
  cases field with
  | none =>
    constructor
    · rintro ⟨⟩
      exact .absent
    · rintro ⟨⟩
      rfl
  | some j =>
    show OneOrMany.values? decode j = some as ↔ _
    constructor
    · intro h
      cases hone : decode j with
      | some a =>
        -- one thing, so it is read as that
        rw [OneOrMany.values?_of_single (hplain j (by rw [hone]; rfl))] at h
        split at h
        · rename_i hread
          rw [hone] at h
          cases h
          exact .single hread ((hdecode j a).1 hone)
        · cases h
      | none =>
        -- not one thing, so it must be a list of them
        rw [OneOrMany.values?_of_list hone] at h
        split at h
        · rename_i hread
          cases j with
          | arr items => exact .list hread ((mapM_eq_some_iff hdecode).1 h)
          | null | bool | num | str | obj | unreadable => cases h
        · cases h
    · intro h
      cases h with
      | @single _ a hread h =>
        have hone : decode j = some a := (hdecode j a).2 h
        rw [OneOrMany.values?_of_single (hplain j (by rw [hone]; rfl)), if_pos hread, hone]
        rfl
      -- a list is not one thing, so it is read as a list
      | @list items _ hread h =>
        have hlist : Json.list? decode (.arr items) = some as := (mapM_eq_some_iff hdecode).2 h
        have hnone : decode (.arr items) = none := by
          refine Option.not_isSome_iff_eq_none.1 fun hone => ?_
          rw [hplain _ hone] at hlist
          cases hlist
        rw [OneOrMany.values?_of_list hnone, if_pos hread, hlist]

end

/-- A text is read where one must stand. -/
theorem required_str?_iff {field : Option Json} {text : String} :
    Json.required field Json.str? = some text ↔ field = some (.str text) := by
  constructor
  · intro h
    obtain ⟨j, hj, h⟩ := Option.bind_eq_some_iff.1 h
    cases j with
    | str s =>
      cases h
      exact hj
    | null | bool | num | arr | obj | unreadable => cases h
  · rintro rfl
    rfl

theorem runsOn_iff (j : Json) (host : String) :
    (RegisteredInstance.ofJson? j).map (·.hostName) = some host ↔ RunsOn j host := by
  unfold RegisteredInstance.ofJson? RunsOn
  rw [Option.bind_eq_bind, Option.map_bind, Option.bind_eq_some_iff]
  refine exists_congr fun f => and_congr_right fun _ => ?_
  rw [← required_str?_iff]
  show ((Json.required (f "hostName") Json.str?).bind _).map _ = _ ↔ _
  cases Json.required (f "hostName") Json.str? <;> rfl

theorem describes_iff (j : Json) (e : String × List String) :
    (Application.ofJson? j).map Application.listing = some e ↔ Describes j e := by
  have hholds : ∀ (f : Json.Fields) (hosts : List String),
      (Json.orDefault (f "instance") [] (OneOrMany.values? RegisteredInstance.ofJson?)).map
          (fun instances => instances.map (·.hostName)) = some hosts ↔
        Holds RunsOn (f "instance") hosts := by
    intro f hosts
    rw [← holds_iff (RegisteredInstance.unambiguous.map (·.hostName)) runsOn_iff]
    cases f "instance" with
    | none => rfl
    | some v =>
      unfold Json.orDefault
      dsimp only
      rw [OneOrMany.values?_map]
  obtain ⟨name, hosts⟩ := e
  rw [Application.ofJson?_map_listing, Option.bind_eq_some_iff]
  refine exists_congr fun f => and_congr_right fun _ => ?_
  rw [Option.bind_eq_some_iff, ← required_str?_iff, ← hholds]
  constructor
  · rintro ⟨name', hname, h⟩
    obtain ⟨instances, hinstances, h⟩ := Option.map_eq_some_iff.1 h
    cases h
    exact ⟨hname, by rw [hinstances]; rfl⟩
  · rintro ⟨hname, h⟩
    obtain ⟨instances, hinstances, h⟩ := Option.map_eq_some_iff.1 h
    refine ⟨name, hname, ?_⟩
    rw [hinstances, Option.map_some]
    exact congrArg (fun hosts => some (name, hosts)) h

/-- **Reading an answer finds what it lists**, and nothing can be read in an answer that lists
    nothing.  From the inside out: an instance, an application, the list of applications, and the
    answer around it. -/
theorem enumerates_iff (j : Json) (l : List (String × List String)) :
    (applicationsOfJson? j).map listings = some l ↔ Enumerates j l := by
  have hlist : ∀ inner : Json, (applicationListOfJson? inner).map listings = some l ↔
      ∃ g, inner.record? ["application"] = some g ∧ Holds Describes (g "application") l := by
    intro inner
    unfold applicationListOfJson?
    rw [Option.bind_eq_bind, Option.map_bind, Option.bind_eq_some_iff]
    refine exists_congr fun g => and_congr_right fun _ => ?_
    rw [← holds_iff (Application.unambiguous.map Application.listing) describes_iff,
      Function.comp_apply]
    cases g "application" with
    | none => exact Iff.rfl
    | some v =>
      unfold Json.orDefault
      dsimp only
      rw [← OneOrMany.values?_map, OneOrMany.values?, Option.map_map]
      exact Iff.rfl
  have hread : (applicationsOfJson? j).map listings = some l ↔
      ∃ f, j.record? ["applications"] = some f ∧
        (Json.orDefault (f "applications") (.many []) applicationListOfJson?).map listings =
          some l := by
    unfold applicationsOfJson?
    rw [Option.bind_eq_bind, Option.map_bind, Option.bind_eq_some_iff]
    rfl
  rw [hread]
  constructor
  · rintro ⟨f, hf, h⟩
    cases hfield : f "applications" with
    | none =>
      rw [hfield] at h
      cases h
      exact .nothing hf hfield
    | some inner =>
      rw [hfield] at h
      obtain ⟨g, hg, h⟩ := (hlist inner).1 h
      exact .applications hf hfield hg h
  · intro h
    cases h with
    | nothing hf hnone => exact ⟨_, hf, by rw [hnone]; rfl⟩
    | applications hf hinner hg h =>
      refine ⟨_, hf, ?_⟩
      rw [hinner]
      exact (hlist _).2 ⟨_, hg, h⟩

/-! ## What a client finds -/

/-- **The hosts under a name**: those of all applications with it, in the order of the document.
    This is what a reader of the documentation would expect to find. -/
def hostsUnder (name : String) (l : List (String × List String)) : List String :=
  (l.filter fun e => e.1 = name).flatMap Prod.snd

section

variable (name : String)

theorem hostsUnder_append (l l' : List (String × List String)) :
    hostsUnder name (l ++ l') = hostsUnder name l ++ hostsUnder name l' := by
  unfold hostsUnder
  rw [List.filter_append, List.flatMap_append]

/-- Applications of other names have no hosts under this one. -/
theorem hostsUnder_other {name : String} {l : List (String × List String)}
    (h : name ∉ l.map Prod.fst) : hostsUnder name l = [] := by
  have hnone : (l.filter fun e => e.1 = name) = [] := by
    refine List.filter_eq_nil_iff.2 fun e he hsame => h ?_
    rw [← of_decide_eq_true hsame]
    exact List.mem_map_of_mem he
  unfold hostsUnder
  rw [hnone]
  rfl

/-- **The hosts under a name** end with those of its last application, since no application after
    it has that name. -/
theorem hostsUnder_last {name : String} (front : List (String × List String)) (hosts : List String)
    {back : List (String × List String)} (h : name ∉ back.map Prod.fst) :
    hostsUnder name (front ++ (name, hosts) :: back) = hostsUnder name front ++ hosts := by
  have hmiddle : hostsUnder name [(name, hosts)] = hosts := by
    unfold hostsUnder
    rw [List.filter_cons_of_pos (by simp), List.filter_nil, List.flatMap_singleton]
  rw [hostsUnder_append, ← List.singleton_append, hostsUnder_append, hmiddle, hostsUnder_other h,
    List.append_nil]

end

namespace RegistryClient

variable {σ : Type} {c : RegistryClient} {network : Network σ} {s : σ} {body : String} {j : Json}
  {l : List (String × List String)}

/-- What is listed is put into a map, if the request was answered and its body can be read. -/
theorem apps_ofList (hanswer : ((c.send .get ["apps"]).run network s).1 = .ok body)
    (hbody : Json.parse? body = some j) (hl : Enumerates j l) :
    (c.apps.run network s).1 = .ok (SortedMap.ofList l) := by
  have hread : (readBody applicationsOfJson? (.ok body)).map listings = .ok l := by
    obtain ⟨applications, happs, hlist⟩ := Option.map_eq_some_iff.1 ((enumerates_iff j l).2 hl)
    unfold readBody
    dsimp only
    rw [hbody, Option.bind_some, happs]
    exact congrArg Except.ok hlist
  rw [apps_eq, Dialogue.run_map, hanswer, hread]

/-- **Of each name the last application is left.**  Where an answer lists something, a client finds
    exactly the names in it.  Under each name it finds the hosts of the last application with it; those
    of the applications before are lost, each as often as it was there.  If every name is there once,
    nothing is lost. -/
theorem apps_last (hanswer : ((c.send .get ["apps"]).run network s).1 = .ok body)
    (hbody : Json.parse? body = some j) (hl : Enumerates j l) :
    ∃ m, (c.apps.run network s).1 = .ok m ∧
      (∀ name, (m.get? name).isSome = true ↔ name ∈ l.map Prod.fst) ∧
      (∀ name ∈ l.map Prod.fst, ∃ front hosts back,
        l = front ++ (name, hosts) :: back ∧ name ∉ back.map Prod.fst ∧
        m.get? name = some hosts ∧
        hostsUnder name l = hostsUnder name front ++ hosts ∧
        (m.get? name = some (hostsUnder name l) ↔ hostsUnder name front = []) ∧
        ∀ host, hosts.count host = (hostsUnder name l).count host ↔
          host ∉ hostsUnder name front) ∧
      ((l.map Prod.fst).Nodup →
        ∀ name ∈ l.map Prod.fst, m.get? name = some (hostsUnder name l)) := by
  have hlast : ∀ name ∈ l.map Prod.fst, ∃ front hosts back,
      l = front ++ (name, hosts) :: back ∧ name ∉ back.map Prod.fst ∧
        (SortedMap.ofList l).get? name = some hosts ∧
        hostsUnder name l = hostsUnder name front ++ hosts := by
    intro name hname
    obtain ⟨front, hosts, back, rfl, hback⟩ := SortedMap.exists_last hname
    exact ⟨front, hosts, back, rfl, hback, SortedMap.get?_ofList hosts hback,
      hostsUnder_last front hosts hback⟩
  refine ⟨SortedMap.ofList l, apps_ofList hanswer hbody hl,
    fun name => SortedMap.get?_ofList_isSome, ?_, ?_⟩
  · -- one name: its last application, and what was before it
    intro name hname
    obtain ⟨front, hosts, back, hsplit, hback, hget, hunder⟩ := hlast name hname
    refine ⟨front, hosts, back, hsplit, hback, hget, hunder, ?_, ?_⟩
    · rw [hget, hunder, Option.some_inj, List.self_eq_append_left]
    · intro host
      rw [hunder, List.count_append, ← List.count_eq_zero]
      omega
  · -- no name is repeated, so there is nothing before it
    intro hnodup name hname
    obtain ⟨front, hosts, back, hsplit, -, hget, hunder⟩ := hlast name hname
    have hfront : name ∉ front.map Prod.fst := by
      rw [hsplit, List.map_append, List.map_cons] at hnodup
      exact fun hmem => (List.nodup_append.1 hnodup).2.2 name hmem name (List.mem_cons_self ..) rfl
    rw [hget, hunder, hostsUnder_other hfront, List.nil_append]

/-- A network in which every request is answered with one text. -/
def answeringNetwork (body : String) : Network Unit := fun _ s => (.reply 200 body, s)

/-- An application in an answer. -/
def listedApplication (name host : String) : Json :=
  .obj [("name", .str name), ("instance", .obj [("hostName", .str host)])]

/-- An answer about two applications, each with one instance. -/
def twoApplications (name name' : String) : Json :=
  directoryAnswer (.arr [listedApplication name "a.local", listedApplication name' "b.local"])

theorem enumerates_twoApplications (name name' : String) :
    Enumerates (twoApplications name name') [(name, ["a.local"]), (name', ["b.local"])] := by
  refine (enumerates_iff _ _).1 ?_
  rfl

/-- The body of the answer reaches the client: there is one server, and the request can be sent. -/
theorem send_answering (body : String) :
    ((localClient.send .get ["apps"]).run (answeringNetwork body) ()).1 = .ok body := by
  let below : Url := { localBase with path := .segments ["eureka", "apps"] }
  have hbelow : localBase.below? ["apps"] = some below := by decide +kernel
  have hsendable : ({ method := .get, url := below, timeout := localSettings.timeout } :
      HttpRequest).isSendable = true := by decide +kernel
  show ((askInOrder .get ["apps"] none localSettings.timeout .noServers [localBase]).run _ _).1 = _
  rw [askInOrder, hbelow]
  dsimp only
  rw [if_pos hsendable]
  rfl

theorem twoApplications_found :
    ∃ m, (localClient.apps.run (answeringNetwork (twoApplications "SVC" "OTHER").render) ()).1 =
        .ok m ∧ m.get? "SVC" = some ["a.local"] ∧ m.get? "OTHER" = some ["b.local"] := by
  obtain ⟨m, hm, -, -, hwhole⟩ := apps_last (send_answering _)
    (Json.parse?_render (by decide)) (enumerates_twoApplications "SVC" "OTHER")
  exact ⟨m, hm, hwhole (by decide) "SVC" (by decide), hwhole (by decide) "OTHER" (by decide)⟩

/-- **Not every instance is found**: two applications with one name have one instance each, and the
    first of them is nowhere. -/
theorem not_every_instance_found :
    ¬∀ (σ : Type) (c : RegistryClient) (network : Network σ) (s : σ) (body : String) (j : Json)
      (l : List (String × List String)),
      ((c.send .get ["apps"]).run network s).1 = .ok body → Json.parse? body = some j →
      Enumerates j l → ∃ m, (c.apps.run network s).1 = .ok m ∧
        (∀ name, (m.get? name).isSome = true ↔ name ∈ l.map Prod.fst) ∧
        ∀ name host,
          ((m.get? name).getD []).count host = (hostsUnder name l).count host := by
  intro h
  have hanswer := send_answering (twoApplications "SVC" "SVC").render
  have hparse : Json.parse? (twoApplications "SVC" "SVC").render = some (twoApplications "SVC" "SVC") :=
    Json.parse?_render (by decide)
  have hl := enumerates_twoApplications "SVC" "SVC"
  obtain ⟨m, hm, -, hcount⟩ := h Unit localClient _ () _ _ _ hanswer hparse hl
  rw [apps_ofList hanswer hparse hl] at hm
  cases hm
  exact absurd (hcount "SVC" "a.local") (by decide)

end RegistryClient

end LeaseKeeper
