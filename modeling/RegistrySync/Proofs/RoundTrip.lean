import RegistrySync.Mesh.Json
import RegistrySync.Proofs.JsonText
import RegistrySync.Settings.Json

/-!
# What is written reads back

**Theorem (`written_reads_back`).** Endpoints, memberships, service entries with their parts, and
settings with theirs are read from their own texts, each as the value that was written. This holds
for all texts and numbers in them, for fields that are set or not set, and for lists and maps of any
size. The hosts of a membership may be written in any order. The settings that a backend of a kind
of its own brings along are any value without floating-point numbers, nesting at most 124
containers; three more enclose it in a text of settings.

A text says the tree of the value that was written (`parse_render`), so what is left is to decode
trees. `Decoder.Reads` says of a decoder that it takes a value apart again. It passes from the items
to a list (`reads_list`), from the entries to a map (`reads_table`), and from the fields to a record
(`reads_record`), where the fields are read one after another (`required_bind`,
`withDefault_bind`). Settings of a backend are also held as values before they are read
(`reads_kind`); a plain value is what its own tree holds (`value?_tree`).
-/

namespace RegistrySync

namespace Json

/-! ## Values that can be held -/

/-- A value without floating-point numbers whose containers nest at most `room` deep. Its numbers
fit 64 bits, with a sign or without, and its objects give their members in the order of their
names. -/
inductive Value.Plain : Nat → Value → Prop where
  | null {room : Nat} : Plain room .null
  | bool {room : Nat} (b : Bool) : Plain room (.bool b)
  | int {room : Nat} {n : Int} : Int64.minValue.toInt ≤ n → n < UInt64.size → Plain room (.int n)
  | string {room : Nat} (s : String) : Plain room (.string s)
  | array {room : Nat} {vs : List Value} : (∀ v ∈ vs, Plain room v) → Plain (room + 1) (.array vs)
  | object {room : Nat} {ms : List (String × Value)} : ms.Pairwise (fun a b => a.1 < b.1) →
      (∀ m ∈ ms, Plain room m.2) → Plain (room + 1) (.object ms)

namespace Value.Plain

variable {room : Nat} {v : Value}

theorem whole (h : v.Plain room) : v.Whole := by
  induction h with
  | null => exact .null
  | bool b => exact .bool b
  | int _ _ => exact .int _
  | string s => exact .string s
  | array _ ih => exact .array ih
  | object _ _ ih => exact .object ih

theorem widen (h : v.Plain room) {more : Nat} (hmore : room ≤ more) : v.Plain more := by
  induction h generalizing more with
  | null => exact .null
  | bool b => exact .bool b
  | int hlow hhigh => exact .int hlow hhigh
  | string s => exact .string s
  | array _ ih =>
    obtain ⟨more, rfl⟩ : ∃ n, more = n + 1 := ⟨more - 1, by omega⟩
    exact .array fun v hv => ih v hv (by omega)
  | object hsorted _ ih =>
    obtain ⟨more, rfl⟩ : ∃ n, more = n + 1 := ⟨more - 1, by omega⟩
    exact .object hsorted fun m hm => ih m hm (by omega)

end Value.Plain

theorem itemValues?_trees {room : Nat} {vs : List Value}
    (h : ∀ v ∈ vs, v.tree.value? room = some v) :
    itemValues? room (vs.map Value.tree) = some vs := by
  induction vs with
  | nil => rw [List.map_nil, itemValues?]
  | cons v vs ih =>
    rw [List.map_cons, itemValues?, h v List.mem_cons_self,
      ih fun w hw => h w (List.mem_cons_of_mem v hw)]
    rfl

/-- A member before all others stays before them. -/
theorem putMember_of_lt {k : String} {v : Value} {ms : List (String × Value)}
    (h : ∀ m ∈ ms, k < m.1) : putMember k v ms = (k, v) :: ms := by
  cases ms with
  | nil => rfl
  | cons m ms => rw [putMember, if_pos (h m List.mem_cons_self)]

theorem memberValues?_trees {room : Nat} {ms : List (String × Value)}
    (hsorted : ms.Pairwise fun a b => a.1 < b.1) (h : ∀ m ∈ ms, m.2.tree.value? room = some m.2) :
    memberValues? room (ms.map fun m => (some m.1, m.2.tree)) = some ms := by
  induction ms with
  | nil => rw [List.map_nil, memberValues?]
  | cons m ms ih =>
    obtain ⟨hfirst, hsorted⟩ := List.pairwise_cons.1 hsorted
    have hnew : ms.any (·.1 == m.1) = false := by
      rw [List.any_eq_false]
      intro n hn
      simpa using (Table.key_ne_of_lt (hfirst n hn)).symm
    rw [List.map_cons, memberValues?, h m List.mem_cons_self,
      ih hsorted fun n hn => h n (List.mem_cons_of_mem m hn)]
    simp [hnew, putMember_of_lt hfirst]

/-- A plain value is what its own tree holds. -/
theorem value?_tree {room : Nat} {v : Value} (h : v.Plain room) :
    v.tree.value? room = some v := by
  induction h with
  | null => rfl
  | bool b => rfl
  | int hlow hhigh =>
    rw [Value.tree, Tree.value?, Numeral.int?_ofInt]
    exact if_pos ⟨hlow, hhigh⟩
  | string s => rfl
  | array _ ih => simp [Tree.value?, itemValues?_trees ih]
  | object hsorted _ ih => simp [Tree.value?, memberValues?_trees hsorted ih]

theorem isSome_memberValues? {room : Nat} {ms : List (String × Value)}
    (h : ∀ m ∈ ms, m.2.tree.isHeld room) :
    (memberValues? room (ms.map fun m => (some m.1, m.2.tree))).isSome := by
  induction ms with
  | nil => rw [List.map_nil, memberValues?]; rfl
  | cons m ms ih =>
    obtain ⟨v, hv⟩ := Option.isSome_iff_exists.1 (h m List.mem_cons_self)
    obtain ⟨vs, hvs⟩ :=
      Option.isSome_iff_exists.1 (ih fun n hn => h n (List.mem_cons_of_mem m hn))
    rw [List.map_cons, memberValues?, hv, hvs]
    rfl

/-- An object is held when all its members are, with room for one container less. -/
theorem isHeld_object {room : Nat} {ms : List (String × Value)}
    (h : ∀ m ∈ ms, m.2.tree.isHeld room) : (Value.object ms).tree.isHeld (room + 1) := by
  rw [Tree.isHeld, tree_object, Tree.value?, if_neg (by omega), Option.isSome_map]
  exact isSome_memberValues? h

theorem Value.Plain.isHeld {room : Nat} {v : Value} (h : v.Plain room) : v.tree.isHeld room := by
  rw [Tree.isHeld, value?_tree h]
  rfl

/-! ## Decoders -/

/-- The value can be written, and the decoder gives `a` for what is written. -/
structure Decoder.Reads {α : Type} (d : Decoder α) (v : Value) (a : α) : Prop where
  whole : v.Whole
  decoded : d v.tree = some a

variable {α : Type} {d : Decoder α}

theorem Decoder.Reads.of_text {v : Value} {a : α} (h : d.Reads v a) :
    Tree.parse v.render >>= d = some a := by
  rw [parse_render h.whole]
  exact h.decoded

theorem reads_text (s : String) : Decoder.Reads Decode.text (.string s) s := ⟨.string s, rfl⟩

theorem reads_optional_text (s : Option String) :
    Decoder.Reads (Decode.option Decode.text) (Value.ofOption .string s) s := by
  cases s with
  | none => exact ⟨.null, rfl⟩
  | some s => exact ⟨.string s, rfl⟩

theorem int_ofNat {n : Nat} {high : Int} (h : n ≤ high) :
    Decode.int 0 high (Value.ofNat n).tree = some (Int.ofNat n) := by
  rw [Value.ofNat, Value.tree, Decode.int, Numeral.int?_ofInt]
  exact Option.filter_eq_some_iff.2 ⟨rfl, by simpa using h⟩

theorem reads_uint32 (n : UInt32) : Decoder.Reads Decode.uint32 (.ofNat n.toNat) n := by
  refine ⟨.int _, ?_⟩
  have hbound : (n.toNat : Int) ≤ UInt32.size - 1 := by
    have hn := n.toNat_lt_size
    omega
  rw [Decode.uint32, int_ofNat hbound]
  simp

theorem reads_uint64 (n : UInt64) : Decoder.Reads Decode.uint64 (.ofNat n.toNat) n := by
  refine ⟨.int _, ?_⟩
  have hbound : (n.toNat : Int) ≤ UInt64.size - 1 := by
    have hn := n.toNat_lt_size
    omega
  rw [Decode.uint64, int_ofNat hbound]
  simp

theorem mapM_map_eq_some {β γ δ : Type} {f : β → γ} {g : γ → Option δ} {k : β → δ} {bs : List β}
    (h : ∀ b ∈ bs, g (f b) = some (k b)) : (bs.map f).mapM g = some (bs.map k) := by
  induction bs with
  | nil => rfl
  | cons b bs ih =>
    rw [List.map_cons, List.mapM_cons, h b List.mem_cons_self,
      ih fun c hc => h c (List.mem_cons_of_mem b hc)]
    rfl

theorem reads_list {f : α → Value} {as : List α} (h : ∀ a ∈ as, d.Reads (f a) a) :
    Decoder.Reads (Decode.list d) (.ofList f as) as := by
  refine ⟨.array ?_, ?_⟩
  · intro v hv
    obtain ⟨a, ha, rfl⟩ := List.mem_map.1 hv
    exact (h a ha).whole
  · have hitems : (as.map (Value.tree ∘ f)).mapM d = some (as.map id) :=
      mapM_map_eq_some fun a ha => (h a ha).decoded
    rw [Value.ofList, tree_array, Decode.list, List.map_map, hitems, List.map_id]

/-- The members of an object can come in any order. -/
theorem reads_table {f : α → Value} {t : Table α} {es : List (String × α)}
    (hes : es.Perm t.entries) (h : ∀ e ∈ es, d.Reads (f e.2) e.2) :
    Decoder.Reads (Decode.table d) (.object (es.map fun e => (e.1, f e.2))) t := by
  refine ⟨.object ?_, ?_⟩
  · intro m hm
    obtain ⟨e, he, rfl⟩ := List.mem_map.1 hm
    exact (h e he).whole
  · have hentries : Decode.entries d (Value.object (es.map fun e => (e.1, f e.2))).tree =
        some (es.map id) := by
      rw [tree_object, Decode.entries, List.map_map]
      refine mapM_map_eq_some fun e he => ?_
      simp [(h e he).decoded]
    rw [Decode.table, hentries, List.map_id, Option.map_some, Table.ofList_of_perm hes]

/-- A record is read from the members of its object. -/
theorem reads_record {names : List String} {ms : List (String × Value)}
    {body : Decode.Fields → Option α} {a : α} (hnames : ∀ m ∈ ms, m.1 ∈ names)
    (hnodup : (ms.map (·.1)).Nodup) (hwhole : ∀ m ∈ ms, m.2.Whole)
    (hbody : body (ms.map fun m => (m.1, m.2.tree)) = some a) :
    Decoder.Reads (fun t => Decode.fields names t >>= body) (.object ms) a := by
  refine ⟨.object hwhole, ?_⟩
  have hnamed : (ms.map fun m => (some m.1, m.2.tree)).mapM
      (fun m : Option String × Tree => m.1.map (·, m.2)) = some (ms.map fun m => (m.1, m.2.tree)) :=
    mapM_map_eq_some fun m _ => rfl
  have hknown : (ms.map fun m => (m.1, m.2.tree)).filter (names.contains ·.1) =
      ms.map fun m => (m.1, m.2.tree) := by
    refine List.filter_eq_self.2 fun m hm => ?_
    obtain ⟨n, hn, rfl⟩ := List.mem_map.1 hm
    simpa using hnames n hn
  have hfields : Decode.fields names (Value.object ms).tree =
      some (ms.map fun m => (m.1, m.2.tree)) := by
    have hgiven : ((ms.map fun m => (m.1, m.2.tree)).map (·.1)).Nodup := by
      rwa [List.map_map]
    rw [tree_object, Decode.fields, hnamed]
    simp only [Option.bind_eq_bind, Option.bind_some, hknown]
    exact if_pos hgiven
  rw [hfields]
  exact hbody

variable {β : Type} {ms : List (String × Value)} {name : String} {v : Value} {a : α}
  {rest : α → Option β} {b : β}

theorem required_bind (hlookup : ms.lookup name = some v) (h : d.Reads v a)
    (hrest : rest a = some b) :
    (Decode.Fields.required (ms.map fun m => (m.1, m.2.tree)) name d >>= rest) = some b := by
  rw [Decode.Fields.required, Table.lookup_map_value, hlookup]
  simp [h.decoded, hrest]

theorem withDefault_bind {default : α} (hlookup : ms.lookup name = some v) (h : d.Reads v a)
    (hrest : rest a = some b) :
    (Decode.Fields.withDefault (ms.map fun m => (m.1, m.2.tree)) name d default >>= rest) =
      some b := by
  rw [Decode.Fields.withDefault, Table.lookup_map_value, hlookup]
  simp [h.decoded, hrest]

theorem withDefault_bind_of_absent {default : α} (hlookup : ms.lookup name = none)
    (hrest : rest default = some b) :
    (Decode.Fields.withDefault (ms.map fun m => (m.1, m.2.tree)) name d default >>= rest) =
      some b := by
  rw [Decode.Fields.withDefault, Table.lookup_map_value, hlookup]
  exact hrest

end Json

open Json

/-! ## The mesh model -/

theorem Endpoint.reads_toJson (e : Endpoint) : Decoder.Reads Endpoint.ofJson e.toJson e := by
  have haddress := reads_text e.address
  have hports : Decoder.Reads (Decode.table Decode.uint32) _ e.ports :=
    reads_table (f := fun n => Value.ofNat n.toNat) (.refl _) fun p _ => reads_uint32 p.2
  refine reads_record (by simp) (by simp) ?_ ?_
  · simpa using ⟨haddress.whole, hports.whole⟩
  · exact required_bind rfl haddress (withDefault_bind rfl hports rfl)

/-- A membership whose hosts are written in this order. -/
def Membership.hostsToJson (es : List (String × List Endpoint)) : Value :=
  .object (es.map fun e => (e.1, Value.ofList Endpoint.toJson e.2))

theorem Membership.reads_hosts {m : Membership} {es : List (String × List Endpoint)}
    (hes : es.Perm m.entries) : Decoder.Reads Membership.ofJson (hostsToJson es) m :=
  reads_table hes fun _ _ => reads_list fun e _ => e.reads_toJson

theorem Membership.reads_toJson (m : Membership) : Decoder.Reads Membership.ofJson m.toJson m :=
  reads_hosts (.refl m.entries)

theorem Resolution.reads_toJson (r : Resolution) :
    Decoder.Reads Resolution.ofJson r.toJson r := by
  cases r <;> exact ⟨.string _, rfl⟩

theorem Location.reads_toJson (l : Location) : Decoder.Reads Location.ofJson l.toJson l := by
  cases l <;> exact ⟨.string _, rfl⟩

theorem ServicePort.reads_toJson (p : ServicePort) :
    Decoder.Reads ServicePort.ofJson p.toJson p := by
  have hnumber := reads_uint32 p.number
  have hname := reads_text p.name
  have hprotocol := reads_text p.protocol
  refine reads_record (by simp) (by simp) ?_ ?_
  · simpa using ⟨hnumber.whole, hname.whole, hprotocol.whole⟩
  · exact required_bind rfl hnumber (required_bind rfl hname (required_bind rfl hprotocol rfl))

namespace ServiceEntry

theorem Spec.reads_toJson (s : Spec) : Decoder.Reads Spec.ofJson s.toJson s := by
  have hhosts : Decoder.Reads (Decode.list Decode.text) _ s.hosts :=
    reads_list fun host _ => reads_text host
  have hports : Decoder.Reads (Decode.list ServicePort.ofJson) _ s.ports :=
    reads_list fun p _ => p.reads_toJson
  have hendpoints : Decoder.Reads (Decode.list Endpoint.ofJson) _ s.endpoints :=
    reads_list fun e _ => e.reads_toJson
  have hlocation := s.location.reads_toJson
  have hresolution := s.resolution.reads_toJson
  refine reads_record (by simp) (by simp) ?_ ?_
  · simpa using ⟨hhosts.whole, hlocation.whole, hresolution.whole, hports.whole, hendpoints.whole⟩
  · exact required_bind rfl hhosts (withDefault_bind rfl hlocation
      (required_bind rfl hresolution (withDefault_bind rfl hports
        (withDefault_bind rfl hendpoints rfl))))

theorem Metadata.reads_texts (t : Table String) :
    Decoder.Reads (Decode.table Decode.text) (textsToJson t) t :=
  reads_table (.refl _) fun e _ => reads_text e.2

theorem Metadata.reads_toJson (m : Metadata) : Decoder.Reads Metadata.ofJson m.toJson m := by
  obtain ⟨name, namespaceName, resourceVersion, labels, annotations⟩ := m
  have hname := reads_text name
  have hnamespace := reads_text namespaceName
  have hversion := reads_optional_text resourceVersion
  have hlabels := reads_texts labels
  have hannotations := reads_texts annotations
  cases resourceVersion with
  | none =>
    refine reads_record (by simp) (by simp) ?_ ?_
    · simpa using ⟨hname.whole, hnamespace.whole, hlabels.whole, hannotations.whole⟩
    · exact required_bind rfl hname (withDefault_bind rfl hnamespace
        (withDefault_bind_of_absent rfl (withDefault_bind rfl hlabels
          (withDefault_bind rfl hannotations rfl))))
  | some version =>
    refine reads_record (by simp) (by simp) ?_ ?_
    · simpa using ⟨hname.whole, hnamespace.whole, hversion.whole, hlabels.whole,
        hannotations.whole⟩
    · exact required_bind rfl hname (withDefault_bind rfl hnamespace (withDefault_bind rfl hversion
        (withDefault_bind rfl hlabels (withDefault_bind rfl hannotations rfl))))

theorem reads_toJson (e : ServiceEntry) : Decoder.Reads ofJson e.toJson e := by
  have hmetadata := e.metadata.reads_toJson
  have hspec := e.spec.reads_toJson
  refine reads_record (by simp) (by simp) ?_ ?_
  · simpa using ⟨hmetadata.whole, hspec.whole⟩
  · exact required_bind rfl hmetadata (required_bind rfl hspec rfl)

end ServiceEntry

/-! ## The settings -/

namespace BackendSettings

/-- The settings that a kind of its own brings with it are plain and nest at most `room` deep. -/
def PlainWithin (room : Nat) : BackendSettings → Prop
  | custom _ config => config.Plain room
  | _ => True

theorem PlainWithin.widen {room more : Nat} {b : BackendSettings} (h : b.PlainWithin room)
    (hmore : room ≤ more) : b.PlainWithin more := by
  cases b with
  | consul => trivial
  | cloudMap => trivial
  | custom => exact Value.Plain.widen h hmore

theorem splitKind_tree {kind : String} {ms : List (String × Value)}
    (h : ∀ m ∈ ms, m.1 ≠ "type") :
    splitKind (Value.object (("type", .string kind) :: ms)).tree =
      some (kind, (Value.object ms).tree) := by
  have hnone : (ms.map fun m => (some m.1, m.2.tree)).filter (·.1 == some "type") = [] := by
    rw [List.filter_eq_nil_iff]
    intro m hm
    obtain ⟨n, hn, rfl⟩ := List.mem_map.1 hm
    simpa using h n hn
  have hall : (ms.map fun m => (some m.1, m.2.tree)).filter (not ∘ (·.1 == some "type")) =
      ms.map fun m => (some m.1, m.2.tree) := by
    rw [List.filter_eq_self]
    intro m hm
    obtain ⟨n, hn, rfl⟩ := List.mem_map.1 hm
    simpa using h n hn
  rw [tree_object, tree_object, List.map_cons, splitKind, List.partition_eq_filter_filter,
    List.filter_cons_of_pos (by simp), List.filter_cons_of_neg (by simp), hnone, hall]
  rfl

/-- Settings of a kind are read from what is left without the kind. -/
theorem reads_kind {kind : String} {ms : List (String × Value)} {enclosing : Nat}
    {d : Decoder BackendSettings} {b : BackendSettings} (henclosing : enclosing < heldDepth)
    (hkind : ∀ m ∈ ms, m.1 ≠ "type")
    (hplain : ∀ m ∈ ms, m.2.Plain (heldDepth - enclosing - 1))
    (hd : (kind, d) ∈ [("consul", consulOfJson), ("cloud_map", cloudMapOfJson),
      ("custom", customOfJson)])
    (h : d.Reads (.object ms) b) :
    Decoder.Reads (ofJson enclosing) (.object (("type", .string kind) :: ms)) b := by
  refine ⟨.object ?_, ?_⟩
  · intro m hm
    obtain rfl | hm := List.mem_cons.1 hm
    · exact .string kind
    · exact (hplain m hm).whole
  · have hroom : heldDepth - enclosing = heldDepth - enclosing - 1 + 1 := by omega
    have hheld : (Value.object ms).tree.isHeld (heldDepth - enclosing) := by
      rw [hroom]
      exact isHeld_object fun m hm => (hplain m hm).isHeld
    have hread := h.decoded
    rw [ofJson, splitKind_tree hkind]
    generalize (Value.object ms).tree = t at hheld hread
    simp only [List.mem_cons, Prod.mk.injEq, List.not_mem_nil, or_false] at hd
    obtain ⟨rfl, rfl⟩ | ⟨rfl, rfl⟩ | ⟨rfl, rfl⟩ := hd <;> simp [hheld, hread]

theorem plain_uint64 {room : Nat} (n : UInt64) : (Value.ofNat n.toNat).Plain room := by
  have hlow : Int64.minValue.toInt ≤ Int.ofNat n.toNat :=
    Int.le_trans (by decide) (Int.natCast_nonneg n.toNat)
  exact .int hlow (Int.ofNat_lt.2 n.toNat_lt_size)

theorem plain_optional_text {room : Nat} (s : Option String) :
    (Value.ofOption .string s).Plain room := by
  cases s with
  | none => exact .null
  | some s => exact .string s

theorem reads_consul {enclosing : Nat} (henclosing : enclosing < heldDepth) (endpoint : String)
    (namespaceName : Option String) (tickInterval wait : UInt64) :
    Decoder.Reads (ofJson enclosing) (toJson (.consul endpoint namespaceName tickInterval wait))
      (.consul endpoint namespaceName tickInterval wait) := by
  have hendpoint := reads_text endpoint
  have hnamespace := reads_optional_text namespaceName
  have htick := reads_uint64 tickInterval
  have hwait := reads_uint64 wait
  refine reads_kind (d := consulOfJson) henclosing (by simp) ?_ (by simp) ?_
  · simpa using ⟨.string endpoint, plain_optional_text namespaceName, plain_uint64 tickInterval,
      plain_uint64 wait⟩
  · refine reads_record (by simp) (by simp) ?_ ?_
    · simpa using ⟨hendpoint.whole, hnamespace.whole, htick.whole, hwait.whole⟩
    · exact required_bind rfl hendpoint (withDefault_bind rfl hnamespace
        (withDefault_bind rfl htick (withDefault_bind rfl hwait rfl)))

theorem reads_cloudMap {enclosing : Nat} (henclosing : enclosing < heldDepth)
    (region accessKeyId secretAccessKey : Option String) (interval : UInt64) :
    Decoder.Reads (ofJson enclosing)
      (toJson (.cloudMap region accessKeyId secretAccessKey interval))
      (.cloudMap region accessKeyId secretAccessKey interval) := by
  have hregion := reads_optional_text region
  have hid := reads_optional_text accessKeyId
  have hsecret := reads_optional_text secretAccessKey
  have hinterval := reads_uint64 interval
  refine reads_kind (d := cloudMapOfJson) henclosing (by simp) ?_ (by simp) ?_
  · simpa using ⟨plain_optional_text region, plain_optional_text accessKeyId,
      plain_optional_text secretAccessKey, plain_uint64 interval⟩
  · refine reads_record (by simp) (by simp) ?_ ?_
    · simpa using ⟨hregion.whole, hid.whole, hsecret.whole, hinterval.whole⟩
    · exact withDefault_bind rfl hregion (withDefault_bind rfl hid (withDefault_bind rfl hsecret
        (withDefault_bind rfl hinterval rfl)))

/-- The text of a kind of its own holds its settings one container deeper. -/
theorem reads_custom {enclosing : Nat} (henclosing : enclosing < heldDepth) (factory : String)
    {config : Value} (h : config.Plain (heldDepth - enclosing - 1)) :
    Decoder.Reads (ofJson enclosing) (toJson (.custom factory config))
      (.custom factory config) := by
  have hfactory := reads_text factory
  have hconfig : Decoder.Reads (Tree.value? heldDepth) config config :=
    ⟨h.whole, value?_tree (h.widen (by omega))⟩
  refine reads_kind (d := customOfJson) henclosing (by simp) ?_ (by simp) ?_
  · simpa using ⟨.string factory, h⟩
  · refine reads_record (by simp) (by simp) ?_ ?_
    · simpa using ⟨hfactory.whole, hconfig.whole⟩
    · exact required_bind rfl hfactory (required_bind rfl hconfig rfl)

theorem reads_toJson {enclosing : Nat} (henclosing : enclosing < heldDepth) {b : BackendSettings}
    (h : b.PlainWithin (heldDepth - enclosing - 1)) :
    Decoder.Reads (ofJson enclosing) b.toJson b := by
  cases b with
  | consul endpoint namespaceName tickInterval wait =>
    exact reads_consul henclosing endpoint namespaceName tickInterval wait
  | cloudMap region accessKeyId secretAccessKey interval =>
    exact reads_cloudMap henclosing region accessKeyId secretAccessKey interval
  | custom factory config => exact reads_custom henclosing factory h

end BackendSettings

theorem CycleSettings.reads_toJson (c : CycleSettings) :
    Decoder.Reads CycleSettings.ofJson c.toJson c := by
  have hinterval := reads_uint64 c.interval
  have hnamespace := reads_text c.namespaceName
  have hcapacity := reads_uint64 c.eventCapacity
  refine reads_record (by simp) (by simp) ?_ ?_
  · simpa using ⟨hinterval.whole, hnamespace.whole, hcapacity.whole⟩
  · exact withDefault_bind rfl hinterval (withDefault_bind rfl hnamespace
      (withDefault_bind rfl hcapacity rfl))

theorem Settings.reads_toJson {s : Settings} (h : ∀ b ∈ s.backends, b.PlainWithin 124) :
    Decoder.Reads Settings.ofJson s.toJson s := by
  have hbackends : Decoder.Reads (Decode.list (BackendSettings.ofJson 2)) _ s.backends :=
    reads_list fun b hb => b.reads_toJson (by decide) (h b hb)
  have hcycle := s.cycle.reads_toJson
  refine reads_record (by simp) (by simp) ?_ ?_
  · simpa using ⟨hbackends.whole, hcycle.whole⟩
  · exact required_bind rfl hbackends (withDefault_bind rfl hcycle rfl)

/-! ## The main result -/

/-- The text of the value is read as the value. -/
def ReadsBack {α : Type} (toJson : α → Value) (ofJson : Decoder α) (a : α) : Prop :=
  Tree.parse (toJson a).render >>= ofJson = some a

/-- **What is written reads back.** -/
theorem written_reads_back :
    (∀ e, ReadsBack Endpoint.toJson Endpoint.ofJson e) ∧
    (∀ m, ReadsBack Membership.toJson Membership.ofJson m) ∧
    (∀ (m : Membership) es, es.Perm m.entries →
      ReadsBack (fun _ => Membership.hostsToJson es) Membership.ofJson m) ∧
    (∀ p, ReadsBack ServicePort.toJson ServicePort.ofJson p) ∧
    (∀ s, ReadsBack ServiceEntry.Spec.toJson ServiceEntry.Spec.ofJson s) ∧
    (∀ m, ReadsBack ServiceEntry.Metadata.toJson ServiceEntry.Metadata.ofJson m) ∧
    (∀ e, ReadsBack ServiceEntry.toJson ServiceEntry.ofJson e) ∧
    (∀ b : BackendSettings, b.PlainWithin 124 →
      ReadsBack BackendSettings.toJson (BackendSettings.ofJson 0) b) ∧
    (∀ c, ReadsBack CycleSettings.toJson CycleSettings.ofJson c) ∧
    (∀ s : Settings, (∀ b ∈ s.backends, b.PlainWithin 124) →
      ReadsBack Settings.toJson Settings.ofJson s) := by
  refine ⟨?endpoint, ?membership, ?hosts, ?port, ?spec, ?metadata, ?entry, ?backend, ?cycle,
    ?settings⟩
  case endpoint => exact fun e => e.reads_toJson.of_text
  case membership => exact fun m => m.reads_toJson.of_text
  case hosts => exact fun m es hes => (Membership.reads_hosts hes).of_text
  case port => exact fun p => p.reads_toJson.of_text
  case spec => exact fun s => s.reads_toJson.of_text
  case metadata => exact fun m => m.reads_toJson.of_text
  case entry => exact fun e => e.reads_toJson.of_text
  case backend =>
    intro b hb
    have hwide : b.PlainWithin (heldDepth - 0 - 1) := hb.widen (by decide)
    exact (BackendSettings.reads_toJson (by decide) hwide).of_text
  case cycle => exact fun c => c.reads_toJson.of_text
  case settings => exact fun s hs => (Settings.reads_toJson hs).of_text

/-- A registry of a kind of its own. -/
def etcdRegistry : BackendSettings :=
  .custom "etcd" (.object [
    ("lease", .int (UInt64.size - 1)),
    ("paths", .array [.string "\"/mesh\"\n", .object [], .null])])

theorem etcdRegistry_plain : etcdRegistry.PlainWithin 124 := by
  refine .object (by decide) fun m hm => ?_
  simp only [List.mem_cons, List.not_mem_nil, or_false] at hm
  obtain rfl | rfl := hm
  · exact .int (by decide) (by decide)
  · refine .array fun v hv => ?_
    simp only [List.mem_cons, List.not_mem_nil, or_false] at hv
    obtain rfl | rfl | rfl := hv
    · exact .string _
    · exact .object .nil (by simp)
    · exact .null

/-- Two hosts, of which the text may give the second first. -/
def twoHosts : Membership := .ofList [("a.mesh", []), ("b.mesh", [⟨"10.0.0.1", .empty⟩])]

theorem etcd_settings_read_back :
    (etcdRegistry.PlainWithin 124 ∧
      ReadsBack BackendSettings.toJson (BackendSettings.ofJson 0) etcdRegistry) ∧
    ((∀ b ∈ [etcdRegistry, .ofConsul "http://127.0.0.1:8500"], b.PlainWithin 124) ∧
      ReadsBack Settings.toJson Settings.ofJson
        { backends := [etcdRegistry, .ofConsul "http://127.0.0.1:8500"] }) ∧
    (twoHosts.entries.reverse.Perm twoHosts.entries ∧
      ReadsBack (fun _ => Membership.hostsToJson twoHosts.entries.reverse) Membership.ofJson
        twoHosts) := by
  have hbackends : ∀ b ∈ [etcdRegistry, .ofConsul "http://127.0.0.1:8500"], b.PlainWithin 124 := by
    intro b hb
    simp only [List.mem_cons, List.not_mem_nil, or_false] at hb
    obtain rfl | rfl := hb
    · exact etcdRegistry_plain
    · trivial
  have hreversed := List.reverse_perm twoHosts.entries
  obtain ⟨-, -, hmembership, -, -, -, -, hbackend, -, hsettings⟩ := written_reads_back
  exact ⟨⟨etcdRegistry_plain, hbackend _ etcdRegistry_plain⟩,
    ⟨hbackends, hsettings _ hbackends⟩, ⟨hreversed, hmembership _ _ hreversed⟩⟩

end RegistrySync
