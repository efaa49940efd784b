/-
  Which bound service is found.

  The platform writes the labels of the bound services in any order.  They are kept in a sorted
  map, so the order is gone once the document is read (`Json.map?_perm`): two documents with the
  same entries make the same map.  The order that counts is that of the labels' bytes, which is
  the order of their characters (`Text.bytes_lt`).

  A query is compared without regard to ASCII case, so two queries that differ in nothing else
  match the same bindings.  Together: what is found is the first match by bytes of labels and then
  by place, and so are the settings of the registry and the message broker that come from it
  (`ServiceBindings.lookup_canonical`).

  That labels are different is needed: of two lists under one label the later one counts, and
  which that is depends on the order.

  The map orders its keys as texts are ordered, by code points, and the bytes of a text are
  something else.  That both orders are one is a property of the encoding: a character with a
  lesser code has lesser bytes, whatever stands behind either (`utf8EncodeChar_lt`).  There are
  four lengths of encodings on each side, so sixteen cases; a shorter encoding starts with a
  lesser byte, and within one length the bytes are digits, the most significant first.
-/
import LeaseKeeper.Amqp
import LeaseKeeper.Proofs.Json.Rereading
import LeaseKeeper.Registry.Settings
import Mathlib.Tactic.SplitIfs

namespace LeaseKeeper

/-! ## The order of bytes -/

namespace Text

/-- **The bytes of a text.** -/
def bytes (s : String) : List UInt8 := s.toByteArray.data.toList

/-- The bytes are those of its characters, one after the other. -/
theorem bytes_ofList (cs : List Char) :
    bytes (String.ofList cs) = cs.flatMap String.utf8EncodeChar := by
  rw [bytes, String.toByteArray_ofList, List.utf8Encode]
  exact List.data_toByteArray ▸ rfl

/-- **A lesser character has lesser bytes**, whatever follows: its first byte says how many there are,
    and the others are digits to base 64. -/
theorem utf8EncodeChar_lt {c d : Char} (h : c < d) (xs ys : List UInt8) :
    String.utf8EncodeChar c ++ xs < String.utf8EncodeChar d ++ ys := by
  have hlt : c.val.toNat < d.val.toNat := h
  have hmax : d.val.toNat < 0x110000 := by
    have hvalid : d.val.toNat < 0xD800 ∨ 0xDFFF < d.val.toNat ∧ d.val.toNat < 0x110000 := d.valid
    omega
  -- The digits of a code to base 64, each from the one before.
  have hdigits : ∀ n, n / 4096 = n / 64 / 64 ∧ n / 262144 = n / 64 / 64 / 64 := by omega
  unfold String.utf8EncodeChar
  dsimp only
  simp only [hdigits]
  split_ifs <;>
    simp only [List.cons_append, List.nil_append, List.cons_lt_cons_iff, UInt8.lt_iff_toNat_lt,
      ← UInt8.toNat_inj, UInt8.toNat_ofNat'] <;>
    omega

/-- Texts in order have bytes in order: induction on where they differ. -/
theorem flatMap_utf8EncodeChar_lt {as bs : List Char} (h : as < bs) :
    as.flatMap String.utf8EncodeChar < bs.flatMap String.utf8EncodeChar := by
  induction h with
  | @nil b bs =>
    rw [List.flatMap_cons]
    cases hb : String.utf8EncodeChar b with
    | nil => exact absurd hb String.utf8EncodeChar_ne_nil
    | cons x xs => exact .nil
  | rel h => exact utf8EncodeChar_lt h _ _
  | cons h ih => exact List.append_left_lt ih

/-- **The order of texts is that of their bytes.** -/
theorem bytes_lt {s t : String} (h : s < t) : bytes s < bytes t := by
  rw [← s.ofList_toList, ← t.ofList_toList, bytes_ofList, bytes_ofList]
  exact flatMap_utf8EncodeChar_lt h

end Text

/-! ## Maps filled in any order -/

namespace SortedMap

variable {α : Type}

/-- A new key is added to the entries, somewhere among them. -/
theorem insertEntry_perm {key : String} (value : α) {entries : List (String × α)}
    (h : key ∉ entries.map Prod.fst) :
    (insertEntry key value entries).Perm ((key, value) :: entries) := by
  induction entries with
  | nil => exact .refl _
  | cons e rest ih =>
    obtain ⟨hother, hrest⟩ := not_or.1 (mt List.mem_cons.2 h)
    unfold insertEntry
    split
    · exact .refl _
    · exact ((ih hrest).cons e).trans (.swap (key, value) e rest)

/-- Entries with new and different keys are all there in the end: induction on them. -/
theorem foldl_insert_perm {entries : List (String × α)} {m : SortedMap α}
    (h : ((m.entries ++ entries).map Prod.fst).Nodup) :
    (entries.foldl (fun m e => m.insert e.1 e.2) m).entries.Perm (m.entries ++ entries) := by
  induction entries generalizing m with
  | nil =>
    rw [List.append_nil]
    exact .refl _
  | cons e rest ih =>
    -- The next entry goes among those of the map, and all are still there.
    have hmiddle : (m.entries ++ e :: rest).Perm (e :: (m.entries ++ rest)) := List.perm_middle
    have hkeys : (((e :: m.entries) ++ rest).map Prod.fst).Nodup :=
      (hmiddle.map Prod.fst).nodup_iff.1 h
    have hnew : e.1 ∉ m.entries.map Prod.fst := by
      intro hmem
      refine (List.nodup_cons.1 hkeys).1 ?_
      show e.1 ∈ (m.entries ++ rest).map Prod.fst
      rw [List.map_append]
      exact List.mem_append_left _ hmem
    have hinsert : (m.insert e.1 e.2).entries.Perm (e :: m.entries) := insertEntry_perm e.2 hnew
    have hall := hinsert.append_right rest
    exact (ih ((hall.map Prod.fst).nodup_iff.2 hkeys)).trans (hall.trans hmiddle.symm)

/-- **The entries of a map** are those that it was filled with, if their keys are different. -/
theorem entries_ofList_perm {entries : List (String × α)} (h : (entries.map Prod.fst).Nodup) :
    (ofList entries).entries.Perm entries :=
  foldl_insert_perm (m := empty) h

/-- **A map is known by its entries**, whatever their order: its keys increase, and there is only
    one such order. -/
theorem ext_perm {m n : SortedMap α} (h : m.entries.Perm n.entries) : m = n :=
  ext_entries (h.eq_of_pairwise (fun _ _ _ _ hlt hgt => absurd hgt (String.lt_asymm hlt))
    m.keys_increase n.keys_increase)

/-- **The order in which a map is filled does not matter.** -/
theorem ofList_perm {entries entries' : List (String × α)} (h : entries.Perm entries')
    (hkeys : (entries.map Prod.fst).Nodup) : ofList entries = ofList entries' := by
  have hkeys' : (entries'.map Prod.fst).Nodup := (h.map Prod.fst).nodup_iff.1 hkeys
  exact ext_perm ((entries_ofList_perm hkeys).trans (h.trans (entries_ofList_perm hkeys').symm))

end SortedMap

/-! ## Documents written in any order -/

namespace Json

variable {α : Type} {decode : Json → Option α}

/-- Decoding the values of members keeps their keys. -/
theorem members?_keys {ms : List (String × Json)} {entries : List (String × α)}
    (h : members? decode ms = some entries) : entries.map Prod.fst = ms.map Prod.fst := by
  induction ms generalizing entries with
  | nil =>
    cases h
    rfl
  | cons m ms ih =>
    obtain ⟨value, -, h⟩ := Option.bind_eq_some_iff.1 h
    obtain ⟨rest, hrest, h⟩ := Option.bind_eq_some_iff.1 h
    cases h
    exact congrArg (m.1 :: ·) (ih hrest)

/-- One member more: its value is decoded, and then the rest. -/
theorem members?_cons (m : String × Json) (ms : List (String × Json)) :
    members? decode (m :: ms) = (decode m.2).bind fun value =>
      (members? decode ms).map ((m.1, value) :: ·) := by
  obtain ⟨key, j⟩ := m
  rw [members?]
  cases decode j with
  | none => rfl
  | some value => cases members? decode ms <;> rfl

/-- **Members in another order are decoded to the same entries in another order**: induction on the
    exchanges. -/
theorem members?_perm {ms ms' : List (String × Json)} (h : ms.Perm ms')
    {entries : List (String × α)} (hms : members? decode ms = some entries) :
    ∃ entries', members? decode ms' = some entries' ∧ entries.Perm entries' := by
  induction h generalizing entries with
  | nil => exact ⟨entries, hms, .refl _⟩
  | cons m h ih =>
    rw [members?_cons] at hms ⊢
    obtain ⟨value, hvalue, hms⟩ := Option.bind_eq_some_iff.1 hms
    obtain ⟨rest, hrest, rfl⟩ := Option.map_eq_some_iff.1 hms
    obtain ⟨rest', hrest', hperm⟩ := ih hrest
    exact ⟨(m.1, value) :: rest', by rw [hvalue, hrest']; rfl, hperm.cons _⟩
  | swap m m' ms =>
    rw [members?_cons, members?_cons] at hms
    obtain ⟨value', hvalue', hms⟩ := Option.bind_eq_some_iff.1 hms
    obtain ⟨more, hmore, rfl⟩ := Option.map_eq_some_iff.1 hms
    obtain ⟨value, hvalue, hmore⟩ := Option.bind_eq_some_iff.1 hmore
    obtain ⟨rest, hrest, rfl⟩ := Option.map_eq_some_iff.1 hmore
    refine ⟨(m.1, value) :: (m'.1, value') :: rest, ?_, .swap _ _ _⟩
    rw [members?_cons, members?_cons, hvalue, hvalue', hrest]
    rfl
  | trans _ _ ih ih' =>
    obtain ⟨between, hbetween, hperm⟩ := ih hms
    obtain ⟨entries', hentries', hperm'⟩ := ih' hbetween
    exact ⟨entries', hentries', hperm.trans hperm'⟩

/-- **A map is read the same from its members in any order**, if their keys are different. -/
theorem map?_perm {ms ms' : List (String × Json)} (h : ms.Perm ms')
    (hkeys : (ms.map Prod.fst).Nodup) : map? decode (.obj ms) = map? decode (.obj ms') := by
  unfold map?
  dsimp only
  -- If one of the two can be decoded, so can the other.
  cases hms : members? decode ms with
  | some entries =>
    obtain ⟨entries', hms', hperm⟩ := members?_perm h hms
    rw [hms', Option.map_some, Option.map_some,
      SortedMap.ofList_perm hperm (by rwa [members?_keys hms])]
  | none =>
    cases hms' : members? decode ms' with
    | none => rfl
    | some entries' =>
      obtain ⟨entries, hentries, -⟩ := members?_perm h.symm hms'
      rw [hms] at hentries
      cases hentries

end Json

/-! ## Bindings -/

namespace ServiceBindings

/-- **An environment in which services are bound**: its document has these members. -/
def Lists (env : Environment) (ms : List (String × Json)) : Prop :=
  ∃ raw, env.nonEmpty? servicesVar = some raw ∧ Json.parse? raw = some (.obj ms)

/-- **The bindings of a document in the order of the search**: the lists of its labels, in the order of
    the labels' bytes. -/
structure IsVisit (ms : List (String × Json)) (visit : List (String × List ServiceBinding)) :
    Prop where
  decoded : ∃ entries, Json.members? (Json.list? ServiceBinding.ofJson?) ms = some entries ∧
    visit.Perm entries
  ordered : visit.Pairwise fun a b => Text.bytes a.1 < Text.bytes b.1

section

variable {env env' : Environment} {ms ms' : List (String × Json)}

/-- The bindings of an environment are read from the members of its document. -/
theorem ofEnvironment_eq (h : Lists env ms) : ofEnvironment env =
    match ofJson? (.obj ms) with
    | none => .error (.malformed servicesVar)
    | some bindings => .ok bindings := by
  obtain ⟨raw, hraw, hparse⟩ := h
  have hread : (Json.parse? raw).bind ofJson? = ofJson? (.obj ms) := by
    rw [hparse, Option.bind_some]
  unfold ofEnvironment
  rw [hraw]
  exact congrArg (fun read : Option ServiceBindings => match read with
    | none => Except.error (BindingError.malformed servicesVar)
    | some bindings => .ok bindings) hread

/-- **The bindings do not depend on the order of the labels.** -/
theorem ofEnvironment_perm (h : Lists env ms) (h' : Lists env' ms')
    (hlabels : (ms.map Prod.fst).Nodup) (hsame : ms.Perm ms') :
    ofEnvironment env = ofEnvironment env' := by
  rw [ofEnvironment_eq h, ofEnvironment_eq h', ofJson?, ofJson?, Json.map?_perm hsame hlabels]

/-- **All bindings are visited in the order of the search**: label by label as the map has them,
    and this is the order of their bytes. -/
theorem exists_visit (h : Lists env ms) (hlabels : (ms.map Prod.fst).Nodup)
    {bindings : ServiceBindings} (hread : ofEnvironment env = .ok bindings) :
    ∃ visit, IsVisit ms visit ∧ bindings.all = visit.flatMap Prod.snd := by
  rw [ofEnvironment_eq h, ofJson?, Json.map?] at hread
  cases hms : Json.members? (Json.list? ServiceBinding.ofJson?) ms with
  | none =>
    rw [hms] at hread
    cases hread
  | some entries =>
    rw [hms] at hread
    cases hread
    refine ⟨(SortedMap.ofList entries).entries, ⟨⟨entries, hms, ?_⟩, ?_⟩, rfl⟩
    · exact SortedMap.entries_ofList_perm (by rwa [Json.members?_keys hms])
    · exact (SortedMap.ofList entries).keys_increase.imp Text.bytes_lt

end

/-! ## Queries -/

section

variable (bindings : ServiceBindings) (query : String)

/-- What is found by a name is the first binding with it; the error when there is none has the
    query in it, and is left out here. -/
theorem named_toOption :
    (bindings.named query).toOption = bindings.all.find? (·.isNamed query) := by
  unfold named
  cases bindings.all.find? (·.isNamed query) <;> rfl

theorem tagged_toOption :
    (bindings.tagged query).toOption = bindings.all.find? (·.hasTag query) := by
  unfold tagged
  cases bindings.all.find? (·.hasTag query) <;> rfl

end

section

variable {query query' : String}

/-- **Case does not matter** for names. -/
theorem isNamed_congr (h : Text.foldCase query = Text.foldCase query') (b : ServiceBinding) :
    b.isNamed query = b.isNamed query' :=
  Text.sameIgnoringCase_congr h b.name

/-- **Case does not matter** for tags. -/
theorem hasTag_congr (h : Text.foldCase query = Text.foldCase query') (b : ServiceBinding) :
    b.hasTag query = b.hasTag query' :=
  congrArg b.tags.any (funext fun t => Text.sameIgnoringCase_congr h t)

/-- The same predicate finds the same binding. -/
theorem named_congr (h : Text.foldCase query = Text.foldCase query') (bindings : ServiceBindings) :
    (bindings.named query).toOption = (bindings.named query').toOption := by
  rw [named_toOption, named_toOption, funext (isNamed_congr h)]

theorem tagged_congr (h : Text.foldCase query = Text.foldCase query')
    (bindings : ServiceBindings) :
    (bindings.tagged query).toOption = (bindings.tagged query').toOption := by
  rw [tagged_toOption, tagged_toOption, funext (hasTag_congr h)]

end

end ServiceBindings

/-! ## What is found -/

/-- The result of a step that may fail and of another after it. -/
theorem toOption_bind {ε α β : Type} (x : Except ε α) (f : α → Except ε β) :
    (x >>= f).toOption = x.toOption.bind fun a => (f a).toOption := by
  cases x <;> rfl

/-- **Configurations that ask for the same service**, but for the case of its name and tag. -/
structure EndpointConfig.AsksAlike (c c' : EndpointConfig) : Prop where
  name : Text.foldCase c.serviceName = Text.foldCase c'.serviceName
  tag : c.serviceTag.map Text.foldCase = c'.serviceTag.map Text.foldCase
  rest : c' = { c with serviceName := c'.serviceName, serviceTag := c'.serviceTag }

namespace RegistrySettings

/-- **The binding that is chosen** depends on what is bound and asked for: by its tag if one is
    asked for, else by its name. -/
theorem chosenBinding_congr {c c' : EndpointConfig} (h : c.AsksAlike c') {env env' : Environment}
    (hbound : ServiceBindings.ofEnvironment env = ServiceBindings.ofEnvironment env') :
    (chosenBinding c env).toOption = (chosenBinding c' env').toOption := by
  unfold chosenBinding
  rw [toOption_bind, toOption_bind, hbound]
  refine congrArg _ (funext fun bindings => ?_)
  have htag := h.tag
  cases ht : c.serviceTag with
  | none =>
    rw [ht, Option.map_none] at htag
    rw [Option.map_eq_none_iff.1 htag.symm]
    exact ServiceBindings.named_congr h.name bindings
  | some tag =>
    rw [ht, Option.map_some] at htag
    obtain ⟨tag', ht', hsame⟩ := Option.map_eq_some_iff.1 htag.symm
    rw [ht']
    exact ServiceBindings.tagged_congr hsame.symm bindings

/-- **The settings** depend on what is bound and asked for.  If there are addresses, nothing is
    looked up at all. -/
theorem determine_congr {c c' : EndpointConfig} (h : c.AsksAlike c') {env env' : Environment}
    (hbound : ServiceBindings.ofEnvironment env = ServiceBindings.ofEnvironment env') :
    (determine c env).toOption = (determine c' env').toOption := by
  have hchosen := chosenBinding_congr h hbound
  have hurls : c'.serviceUrls = c.serviceUrls := by rw [h.rest]
  have hrenewal : renewalOf c' = renewalOf c := by rw [h.rest]; rfl
  have hofUrls : ofUrls c' = ofUrls c := by rw [h.rest]; rfl
  unfold determine
  rw [hurls, hofUrls, hrenewal]
  split
  · rw [toOption_bind, toOption_bind, hchosen]
  · rfl

end RegistrySettings

namespace AmqpService

theorem ofLookup_toOption (found : Except BindingError ServiceBinding) :
    (ofLookup found).toOption = found.toOption.bind fun b => (ofBinding b).toOption := by
  cases found <;> rfl

/-- **The broker** depends on what is bound and asked for. -/
theorem lookup_congr {env env' : Environment}
    {find find' : ServiceBindings → Except BindingError ServiceBinding}
    (hbound : ServiceBindings.ofEnvironment env = ServiceBindings.ofEnvironment env')
    (hfind : ∀ bindings, (find bindings).toOption = (find' bindings).toOption) :
    (ofLookup ((ServiceBindings.ofEnvironment env).bind find)).toOption =
      (ofLookup ((ServiceBindings.ofEnvironment env').bind find')).toOption := by
  rw [ofLookup_toOption, ofLookup_toOption, hbound]
  cases ServiceBindings.ofEnvironment env' with
  | error e => rfl
  | ok bindings => exact congrArg (Option.bind · _) (hfind bindings)

end AmqpService

/-- **Looking up a bound service is canonical.**  Two environments list the same services under
    different labels, in any order.

    * The first match counts, where labels are visited in the order of their bytes and each list in its
      own order; queries that differ only in ASCII case find the same binding, or none.
    * The settings of the registry are the same in both environments, and so is the message broker;
      also for queries that differ only in case, if anything is found. -/
theorem ServiceBindings.lookup_canonical {env env' : Environment} {ms ms' : List (String × Json)}
    (h : Lists env ms) (h' : Lists env' ms') (hlabels : (ms.map Prod.fst).Nodup)
    (hsame : ms.Perm ms') :
    (∀ bindings, ofEnvironment env = .ok bindings → ofEnvironment env' = .ok bindings ∧
      (∃ visit, IsVisit ms visit ∧ ∀ query,
        (bindings.named query).toOption = (visit.flatMap Prod.snd).find? (·.isNamed query) ∧
        (bindings.tagged query).toOption = (visit.flatMap Prod.snd).find? (·.hasTag query)) ∧
      ∀ query query', Text.foldCase query = Text.foldCase query' →
        (bindings.named query).toOption = (bindings.named query').toOption ∧
        (bindings.tagged query).toOption = (bindings.tagged query').toOption) ∧
    (∀ e, ofEnvironment env = .error e → ofEnvironment env' = .error e) ∧
    (∀ c, RegistrySettings.determine c env = RegistrySettings.determine c env') ∧
    (∀ query, AmqpService.named env query = AmqpService.named env' query ∧
      AmqpService.tagged env query = AmqpService.tagged env' query) ∧
    (∀ c c' : EndpointConfig, c.AsksAlike c' →
      (RegistrySettings.determine c env).toOption =
        (RegistrySettings.determine c' env').toOption) ∧
    ∀ query query', Text.foldCase query = Text.foldCase query' →
      (AmqpService.named env query).toOption = (AmqpService.named env' query').toOption ∧
      (AmqpService.tagged env query).toOption = (AmqpService.tagged env' query').toOption := by
  have hbound := ofEnvironment_perm h h' hlabels hsame
  refine ⟨fun bindings hread => ⟨hbound ▸ hread, ?_, fun query query' hcase =>
      ⟨named_congr hcase bindings, tagged_congr hcase bindings⟩⟩,
    fun e he => hbound ▸ he, fun c => ?_, fun query => ?_,
    fun c c' halike => RegistrySettings.determine_congr halike hbound, fun query query' hcase =>
      ⟨AmqpService.lookup_congr hbound (named_congr hcase),
        AmqpService.lookup_congr hbound (tagged_congr hcase)⟩⟩
  · -- The first match, in the order of the visit.
    obtain ⟨visit, hvisit, hall⟩ := exists_visit h hlabels hread
    refine ⟨visit, hvisit, fun query => ?_⟩
    rw [named_toOption, tagged_toOption, hall]
    exact ⟨rfl, rfl⟩
  · -- The settings of the registry.
    unfold RegistrySettings.determine RegistrySettings.chosenBinding
    rw [hbound]
  · -- The message broker.
    unfold AmqpService.named AmqpService.tagged
    rw [hbound]
    exact ⟨rfl, rfl⟩

/-- One service under a label. -/
def ServiceBindings.labelled (label name tag : String) : String × Json :=
  (label, .arr [.obj [("name", .str name), ("tags", .arr [.str tag])]])

/-- Two registries, the one that counts written last. -/
def ServiceBindings.twoRegistries : List (String × Json) :=
  [labelled "user-provided" "spare" "EUREKA", labelled "p-registry" "main" "eureka"]

/-- An environment with these services. -/
def ServiceBindings.environmentOf (ms : List (String × Json)) : Environment :=
  .ofList [(servicesVar, (Json.obj ms).render)]

/-- The registry under the label that sorts first is the one that is found, by its name and by its
    tag, in whatever case the query is written and in whatever order the labels are. -/
theorem ServiceBindings.twoRegistries_found :
    (twoRegistries.map Prod.fst).Nodup ∧ twoRegistries.Perm twoRegistries.reverse ∧
      ∃ bindings, ofEnvironment (environmentOf twoRegistries) = .ok bindings ∧
        ofEnvironment (environmentOf twoRegistries.reverse) = .ok bindings ∧
        (bindings.named "MAIN").toOption = (bindings.named "main").toOption ∧
        (bindings.named "main").toOption.map (·.name) = some "main" ∧
        (bindings.tagged "Eureka").toOption = (bindings.tagged "eureka").toOption ∧
        (bindings.tagged "eureka").toOption.map (·.name) = some "main" := by
  have hlists : Lists (environmentOf twoRegistries) twoRegistries :=
    ⟨_, by decide +kernel, Json.parse?_render (by decide)⟩
  have hlists' : Lists (environmentOf twoRegistries.reverse) twoRegistries.reverse :=
    ⟨_, by decide +kernel, Json.parse?_render (by decide)⟩
  have hlabels : (twoRegistries.map Prod.fst).Nodup := by decide
  have hsame : twoRegistries.Perm twoRegistries.reverse := (List.reverse_perm _).symm
  have hcanonical := lookup_canonical hlists hlists' hlabels hsame
  have hread : ∃ bindings, ofEnvironment (environmentOf twoRegistries) = .ok bindings ∧
      (bindings.named "main").toOption.map (·.name) = some "main" ∧
      (bindings.tagged "eureka").toOption.map (·.name) = some "main" := by
    rw [ofEnvironment_eq hlists]
    exact ⟨_, rfl, by decide +kernel, by decide +kernel⟩
  obtain ⟨bindings, hbindings, hnamed, htagged⟩ := hread
  obtain ⟨hbindings', -, hcase⟩ := hcanonical.1 bindings hbindings
  exact ⟨hlabels, hsame, bindings, hbindings, hbindings', (hcase _ _ (by decide +kernel)).1, hnamed,
    (hcase _ _ (by decide +kernel)).2, htagged⟩

end LeaseKeeper
