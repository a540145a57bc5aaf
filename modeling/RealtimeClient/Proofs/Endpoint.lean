import Mathlib
import RealtimeClient.Endpoint
import RealtimeClient.Proofs.Codec.Layout
import RealtimeClient.Proofs.Dict
import RealtimeClient.Proofs.PercentEncoding
import RealtimeClient.Proofs.Url.Host

/-!
# The parameters in the address of a connection

A server reads the query of an address from the first question mark on: between `&` stand the
parameters, and up to its first `=` each of them has its key, behind it the percent-encoded value.  The
address of a connection is put together from texts of which only the values of the query are encoded.
Keys and the id of the session stand in it as they are, so that they come back only if they have
nothing in them that a reader takes for something else.

* `fields` — what a server reads in the query of an address.
* `parameters` — what a client wants it to read.
* `fieldsOf_join_iff` — **parameters in a row are read back** if and only if each of them is readable.
* `connectionUrl_faithful` — **the address carries the query** if and only if no key has an `&` or a
  `=`, and the id of the session neither an `&` nor an escape; and dictionaries with such keys have
  different addresses.
* `verbatim_misread` — an id that is read as another one, and an address in which two dictionaries meet.
-/

namespace RealtimeClient.Endpoint

open Codec.Header (cut cut_append cut_cases)
open PercentEncoding (IsUnescaped)

/-! ## Reading and writing parameters -/

/-- A parameter as a server reads it: its key, and the bytes that its value stands for, if it has one. -/
def field (piece : List Char) : String × Option Bytes :=
  (String.ofList (cut '=' piece).1, (cut '=' piece).2.map Url.percentDecode)

def fieldsOf (query : List Char) : List (String × Option Bytes) := (query.splitOn '&').map field

/-- **What a server reads in the query of an address.** -/
def fields (url : String) : List (String × Option Bytes) :=
  ((cut '?' url.toList).2.map fieldsOf).getD []

/-- **What a client wants a server to read.** -/
def parameters (revision : Nat) (sid : Option String) (time : Nat) (query : Query) :
    List (String × String) :=
  [("EIO", toString revision), ("transport", "websocket")] ++ (sid.map fun id => ("sid", id)).toList ++
    [("t", toString time)] ++ query.toList

/-- **A parameter that is written**: its key and value, and the text that stands for the value. -/
structure Written where
  key : String
  value : String
  text : List Char

namespace Written

def piece (w : Written) : List Char := w.key.toList ++ '=' :: w.text

/-- What a server should read. -/
def expected (w : Written) : String × Option Bytes := (w.key, some (Text.utf8 w.value.toList))

/-- **A parameter that is read back**: its parts are found, and its text stands for its value. -/
structure IsReadable (w : Written) : Prop where
  key_amp : '&' ∉ w.key.toList
  key_eq : '=' ∉ w.key.toList
  text_amp : '&' ∉ w.text
  decodes : Url.percentDecode w.text = Text.utf8 w.value.toList

/-- A parameter of its own is read back if its key ends where it should and its text can be decoded. -/
theorem field_piece_iff (w : Written) :
    field w.piece = w.expected ↔
      '=' ∉ w.key.toList ∧ Url.percentDecode w.text = Text.utf8 w.value.toList := by
  constructor
  · intro hfield
    rcases cut_cases '=' w.piece with ⟨before, after, hcut, hpiece, hbefore⟩ | ⟨-, hnone⟩
    · have hkey : before = w.key.toList := by
        have hfirst := congrArg (String.toList ∘ Prod.fst) hfield
        simpa [field, hcut, expected] using hfirst
      subst hkey
      have htext : w.text = after := by simpa [piece] using hpiece
      have hvalue := congrArg Prod.snd hfield
      rw [field, hcut, expected, ← htext] at hvalue
      exact ⟨hbefore, Option.some.inj hvalue⟩
    · exact absurd (List.mem_append_right _ List.mem_cons_self) hnone
  · rintro ⟨hkey, htext⟩
    rw [field, piece, cut_append _ _ hkey, Option.map_some, htext, String.ofList_toList, expected]

end Written

/-! ## Cutting at the marks -/

theorem splitOn_append (text rest : List Char) :
    (text ++ '&' :: rest).splitOn '&' = text.splitOn '&' ++ rest.splitOn '&' := by
  simp only [List.splitOn_eq_splitOnP]
  exact List.splitOnP_append_cons text rest rfl

theorem splitOn_join (first : List Char) (rest : List (List Char)) :
    (first ++ rest.flatMap ('&' :: ·)).splitOn '&' = (first :: rest).flatMap (·.splitOn '&') := by
  induction rest generalizing first with
  | nil => simp
  | cons text rest ih =>
    rw [List.flatMap_cons, List.cons_append, splitOn_append, ih]
    simp only [List.flatMap_cons]

theorem length_splitOn_pos (text : List Char) : 0 < (text.splitOn '&').length :=
  List.length_pos_iff.2 (List.splitOn_ne_nil '&' text)

theorem amp_not_mem_of_length_splitOn {text : List Char} (h : (text.splitOn '&').length ≤ 1) :
    '&' ∉ text := by
  intro hmem
  obtain ⟨before, after, rfl⟩ := List.append_of_mem hmem
  rw [splitOn_append, List.length_append] at h
  have hbefore := length_splitOn_pos before
  have hafter := length_splitOn_pos after
  omega

theorem length_le_length_flatMap (texts : List (List Char)) :
    texts.length ≤ (texts.flatMap (·.splitOn '&')).length := by
  induction texts with
  | nil => exact Nat.le_refl 0
  | cons text rest ih =>
    have hpos := length_splitOn_pos text
    rw [List.flatMap_cons, List.length_append, List.length_cons]
    omega

/-- As many pieces as texts: no text was cut. -/
theorem amp_not_mem_of_length_flatMap {texts : List (List Char)}
    (h : (texts.flatMap (·.splitOn '&')).length = texts.length) : ∀ text ∈ texts, '&' ∉ text := by
  induction texts with
  | nil => exact fun _ htext => nomatch htext
  | cons text rest ih =>
    have hpos := length_splitOn_pos text
    have hrest := length_le_length_flatMap rest
    rw [List.flatMap_cons, List.length_append, List.length_cons] at h
    exact List.forall_mem_cons.2 ⟨amp_not_mem_of_length_splitOn (by omega), ih (by omega)⟩

theorem flatMap_splitOn {texts : List (List Char)} (h : ∀ text ∈ texts, '&' ∉ text) :
    texts.flatMap (·.splitOn '&') = texts := by
  induction texts with
  | nil => rfl
  | cons text rest ih =>
    obtain ⟨htext, hrest⟩ := List.forall_mem_cons.1 h
    rw [List.flatMap_cons, List.splitOn_eq_singleton htext, ih hrest, List.singleton_append]

/-- **Parameters in a row are read back** if and only if each of them is readable. -/
theorem fieldsOf_join_iff (first : Written) (rest : List Written) :
    fieldsOf (first.piece ++ rest.flatMap fun w => '&' :: w.piece) =
        (first :: rest).map Written.expected ↔
      ∀ w ∈ first :: rest, w.IsReadable := by
  have hjoin : fieldsOf (first.piece ++ rest.flatMap fun w => '&' :: w.piece) =
      (((first :: rest).map Written.piece).flatMap (·.splitOn '&')).map field := by
    rw [List.map_cons, ← splitOn_join, List.flatMap_map, fieldsOf]
  rw [hjoin]
  have hall : ((first :: rest).map Written.piece).map field = (first :: rest).map Written.expected ↔
      ∀ w ∈ first :: rest, field w.piece = w.expected := by
    rw [List.map_map]
    exact List.map_inj_left
  constructor
  · intro hread
    -- every parameter gives at least one piece, so that their number leaves no room for another cut
    have hlength := congrArg List.length hread
    rw [List.length_map, List.length_map, ← List.length_map Written.piece] at hlength
    have hamp := amp_not_mem_of_length_flatMap hlength
    rw [flatMap_splitOn hamp, hall] at hread
    intro w hw
    obtain ⟨heq, hdecodes⟩ := w.field_piece_iff.1 (hread w hw)
    have hpiece := hamp _ (List.mem_map_of_mem hw)
    exact ⟨fun hkey => hpiece (List.mem_append_left _ hkey), heq,
      fun htext => hpiece (List.mem_append_right _ (List.mem_cons_of_mem _ htext)), hdecodes⟩
  · intro hreadable
    rw [flatMap_splitOn, hall]
    · exact fun w hw => w.field_piece_iff.2 ⟨(hreadable w hw).key_eq, (hreadable w hw).decodes⟩
    · rintro _ hmem
      obtain ⟨w, hw, rfl⟩ := List.mem_map.1 hmem
      have h := hreadable w hw
      simpa [Written.piece] using ⟨h.key_amp, h.text_amp⟩

/-! ## The address of a connection -/

/-- The id of a session stands in the address as it is. -/
def writtenSid (id : String) : Written := { key := "sid", value := id, text := id.toList }

/-- The values of the query are encoded. -/
def writtenPair (p : String × String) : Written :=
  { key := p.1, value := p.2, text := PercentEncoding.encode p.2.toList }

def writtenNumber (key : String) (n : Nat) : Written :=
  { key, value := toString n, text := Nat.toDigits 10 n }

/-- The parameters after the first one. -/
def writtenRest (sid : Option String) (time : Nat) (query : Query) : List Written :=
  { key := "transport", value := "websocket", text := "websocket".toList } ::
    (sid.map writtenSid).toList ++ writtenNumber "t" time :: query.toList.map writtenPair

theorem parameters_eq (revision : Nat) (sid : Option String) (time : Nat) (query : Query) :
    (parameters revision sid time query).map (fun p => (p.1, some (Text.utf8 p.2.toList))) =
      (writtenNumber "EIO" revision :: writtenRest sid time query).map Written.expected := by
  cases sid <;> simp [parameters, writtenRest, writtenSid, writtenPair, writtenNumber, Written.expected]

/-- What stands in front of the query. -/
def address (e : Endpoint) : List Char :=
  e.scheme.toList ++ "://".toList ++ e.host.toList ++ ':' :: Nat.toDigits 10 e.port ++ e.path.toList

theorem toList_connectionUrl (e : Endpoint) (revision : Nat) (sid : Option String) (time : Nat)
    (query : Query) :
    (e.connectionUrl revision sid time query).toList =
      e.address ++ '?' :: ((writtenNumber "EIO" revision).piece ++
        (writtenRest sid time query).flatMap fun w => '&' :: w.piece) := by
  have hpairs : query.toList.flatMap parameter =
      (query.toList.map writtenPair).flatMap fun w => '&' :: w.piece := by
    rw [List.flatMap_map]
    rfl
  have hrevision : "?EIO=".toList = '?' :: ("EIO".toList ++ ['=']) := by decide
  have htransport : "&transport=websocket".toList =
      '&' :: ("transport".toList ++ '=' :: "websocket".toList) := by decide
  have hsid : "&sid=".toList = '&' :: ("sid".toList ++ ['=']) := by decide
  have htime : "&t=".toList = '&' :: ("t".toList ++ ['=']) := by decide
  rw [connectionUrl, String.toList_ofList, hpairs]
  unfold protocolParameters
  rw [hrevision, htransport, hsid, htime]
  cases sid <;>
    simp only [address, writtenRest, writtenSid, writtenNumber, Written.piece, Option.map_none,
      Option.map_some, Option.toList_none, Option.toList_some, List.flatMap_cons, List.append_assoc,
      List.cons_append, List.nil_append]

/-- **The host of an endpoint** has no character that ends it early. -/
theorem stays_host {target default : String} {e : Endpoint} (h : parse target default = .ok e) :
    Url.Stays e.host.toList := by
  unfold parse at h
  split at h
  · cases h
  next url hurl =>
  split at h
  · cases h
  · cases h
  next secure host hsecure hhost =>
  cases h
  exact Url.stays_host hurl hhost

theorem question_not_mem_address {target default : String} {e : Endpoint}
    (h : parse target default = .ok e) (hpath : '?' ∉ e.path.toList) : '?' ∉ e.address := by
  have hhost : '?' ∉ e.host.toList := fun hmem => absurd (stays_host h _ hmem) (by decide)
  have hport : '?' ∉ Nat.toDigits 10 e.port := fun hmem =>
    absurd (Nat.isDigit_of_mem_toDigits (by decide) (by decide) hmem) (by decide)
  have hscheme : '?' ∉ e.scheme.toList := by
    unfold scheme
    split <;> decide
  simp [address, hscheme, hhost, hport, hpath]

theorem isReadable_writtenNumber {key : String} (hamp : '&' ∉ key.toList) (heq : '=' ∉ key.toList)
    (n : Nat) : (writtenNumber key n).IsReadable := by
  have hdigits {c : Char} (hc : c.isDigit = false) : c ∉ Nat.toDigits 10 n := fun hmem =>
    absurd (Nat.isDigit_of_mem_toDigits (by decide) (by decide) hmem) (by simp [hc])
  have htext : Url.percentDecode (Nat.toDigits 10 n) = Text.utf8 n.repr.toList := by
    rw [Nat.toList_repr, PercentEncoding.percentDecode_eq_utf8_iff]
    exact PercentEncoding.isUnescaped_of_percent_not_mem (hdigits rfl)
  exact ⟨hamp, heq, hdigits rfl, htext⟩

theorem isReadable_writtenSid_iff (id : String) :
    (writtenSid id).IsReadable ↔ '&' ∉ id.toList ∧ IsUnescaped id.toList := by
  rw [← PercentEncoding.percentDecode_eq_utf8_iff]
  have hamp : '&' ∉ "sid".toList := by decide
  have heq : '=' ∉ "sid".toList := by decide
  exact ⟨fun h => ⟨h.text_amp, h.decodes⟩, fun h => ⟨hamp, heq, h.1, h.2⟩⟩

theorem isReadable_writtenPair_iff (p : String × String) :
    (writtenPair p).IsReadable ↔ '&' ∉ p.1.toList ∧ '=' ∉ p.1.toList := by
  refine ⟨fun h => ⟨h.key_amp, h.key_eq⟩, fun h => ⟨h.1, h.2, fun hmem => ?_, ?_⟩⟩
  · rcases PercentEncoding.isAlphanum_or_of_mem_encode hmem with hc | hc
    · exact absurd hc (by decide)
    · exact absurd hc (by decide)
  · exact PercentEncoding.percentDecode_encode _

theorem isReadable_transport :
    Written.IsReadable { key := "transport", value := "websocket", text := "websocket".toList } where
  key_amp := by decide
  key_eq := by decide
  text_amp := by decide
  decodes := by decide

/-- **Keys that can be told apart**: none of them has a mark between parameters or in them. -/
def HasPlainKeys (query : Query) : Prop := ∀ k ∈ query.keys, '&' ∉ k.toList ∧ '=' ∉ k.toList

/-- **An id of a session that can be read**: it stands in the address as it is. -/
def IsPlainSid (id : String) : Prop := '&' ∉ id.toList ∧ IsUnescaped id.toList

theorem isReadable_written_iff (revision : Nat) (sid : Option String) (time : Nat) (query : Query) :
    (∀ w ∈ writtenNumber "EIO" revision :: writtenRest sid time query, w.IsReadable) ↔
      (∀ id ∈ sid, IsPlainSid id) ∧ HasPlainKeys query := by
  have hrevision : (writtenNumber "EIO" revision).IsReadable :=
    isReadable_writtenNumber (by decide) (by decide) revision
  have htime : (writtenNumber "t" time).IsReadable :=
    isReadable_writtenNumber (by decide) (by decide) time
  have hpairs : (∀ w ∈ query.toList.map writtenPair, w.IsReadable) ↔ HasPlainKeys query := by
    rw [List.forall_mem_map, HasPlainKeys, Dict.From.keys, List.forall_mem_map]
    exact forall₂_congr fun p _ => isReadable_writtenPair_iff p
  have hsid : (∀ w ∈ (sid.map writtenSid).toList, w.IsReadable) ↔ ∀ id ∈ sid, IsPlainSid id := by
    cases sid <;> simp [IsPlainSid, isReadable_writtenSid_iff]
  rw [writtenRest, List.forall_mem_cons, and_iff_right hrevision, List.cons_append,
    List.forall_mem_cons, and_iff_right isReadable_transport, List.forall_mem_append, hsid,
    List.forall_mem_cons, and_iff_right htime, hpairs]

theorem cut_connectionUrl {target default : String} {e : Endpoint}
    (h : parse target default = .ok e) (hpath : '?' ∉ e.path.toList) (revision : Nat)
    (sid : Option String) (time : Nat) (query : Query) :
    fields (e.connectionUrl revision sid time query) =
      fieldsOf ((writtenNumber "EIO" revision).piece ++
        (writtenRest sid time query).flatMap fun w => '&' :: w.piece) := by
  rw [fields, toList_connectionUrl, cut_append _ _ (question_not_mem_address h hpath)]
  rfl

/-- **Pairs in a row say what they are pairs of**, whatever stands in front of them. -/
theorem eq_of_flatMap_parameter {query query' : Query} (hplain : HasPlainKeys query)
    (hplain' : HasPlainKeys query')
    (h : query.toList.flatMap parameter = query'.toList.flatMap parameter) : query = query' := by
  -- a time stands for what is in front of the pairs, where an id could be in the way
  have hread {query : Query} (hplain : HasPlainKeys query) :
      fieldsOf ((writtenNumber "t" 0).piece ++ query.toList.flatMap parameter) =
        (writtenNumber "t" 0 :: query.toList.map writtenPair).map Written.expected := by
    have hreadable : ∀ w ∈ writtenNumber "t" 0 :: query.toList.map writtenPair, w.IsReadable := by
      refine List.forall_mem_cons.2 ⟨isReadable_writtenNumber (by decide) (by decide) 0, ?_⟩
      exact List.forall_mem_map.2 fun p hp =>
        (isReadable_writtenPair_iff p).2 (hplain p.1 (List.mem_map_of_mem hp))
    rw [← (fieldsOf_join_iff _ _).2 hreadable, List.flatMap_map]
    rfl
  have hfields := (hread hplain).symm.trans (h ▸ hread hplain')
  rw [List.map_cons, List.map_cons, List.map_map, List.map_map] at hfields
  refine Dict.From.toList_inj (List.map_injective_iff.2 (fun p p' hp => ?_) (List.cons.inj hfields).2)
  obtain ⟨hkey, hvalue⟩ := Prod.mk.inj hp
  exact Prod.ext hkey (String.toList_inj.1 (Text.utf8_injective (Option.some.inj hvalue)))

/-- **The address carries the query** if and only if no key and no id is in the way.  The pairs come in
the order of their keys, and dictionaries without such keys have different addresses. -/
theorem connectionUrl_faithful {target default : String} {e : Endpoint}
    (h : parse target default = .ok e) (hpath : '?' ∉ e.path.toList) (revision : Nat)
    (sid : Option String) (time : Nat) :
    (∀ query : Query, (query.toList.Pairwise fun p q => p.1 < q.1) ∧
      (fields (e.connectionUrl revision sid time query) =
          (parameters revision sid time query).map (fun p => (p.1, some (Text.utf8 p.2.toList))) ↔
        (∀ id ∈ sid, IsPlainSid id) ∧ HasPlainKeys query)) ∧
      ∀ query query' : Query, HasPlainKeys query → HasPlainKeys query' →
        e.connectionUrl revision sid time query = e.connectionUrl revision sid time query' →
          query = query' := by
  refine ⟨fun query => ⟨Dict.From.pairwise_toList query, ?_⟩, fun query query' hplain hplain' heq => ?_⟩
  · rw [cut_connectionUrl h hpath, parameters_eq, fieldsOf_join_iff, isReadable_written_iff]
  · have hurl := String.ofList_injective heq
    exact eq_of_flatMap_parameter hplain hplain' (List.append_cancel_left hurl)

/-- An endpoint on the machine itself. -/
def loopback : Endpoint := { secure := false, host := "[::1]", port := 3000, path := defaultPath }

theorem parse_loopback : parse "http://[::1]:3000" defaultPath = .ok loopback := by decide +kernel

/-- A token with a blank and an `&` is read back, and another token makes another address. -/
theorem connectionUrl_faithful_token :
    let query : Query := Dict.ofList [("token", "a b&c")]
    let query' : Query := Dict.ofList [("token", "a")]
    parse "http://[::1]:3000" defaultPath = .ok loopback ∧ '?' ∉ loopback.path.toList ∧
      fields (loopback.connectionUrl 4 (some "abc") 5 query) =
        (parameters 4 (some "abc") 5 query).map (fun p => (p.1, some (Text.utf8 p.2.toList))) ∧
      loopback.connectionUrl 4 (some "abc") 5 query ≠ loopback.connectionUrl 4 (some "abc") 5 query' := by
  have hpath : '?' ∉ loopback.path.toList := by decide
  have hplain : HasPlainKeys (Dict.ofList [("token", "a b&c")]) := List.forall_mem_singleton.2 (by decide)
  have hplain' : HasPlainKeys (Dict.ofList [("token", "a")]) := List.forall_mem_singleton.2 (by decide)
  have hsid : ∀ id ∈ some "abc", IsPlainSid id := by
    rintro id hid
    cases hid
    exact ⟨by decide, PercentEncoding.isUnescaped_of_percent_not_mem (by decide)⟩
  obtain ⟨hread, hdiffer⟩ := connectionUrl_faithful parse_loopback hpath 4 (some "abc") 5
  exact ⟨parse_loopback, hpath, (hread _).2.2 ⟨hsid, hplain⟩,
    fun heq => absurd (hdiffer _ _ hplain hplain' heq) (by decide)⟩

/-- **What stands in the address as it is can be taken for something else**: an id with an escape is read
as another id, and a key with an `&` and a `=` as two parameters, so that two dictionaries meet in one
address. -/
theorem verbatim_misread :
    let one : Query := Dict.ofList [("a=&b", "")]
    let two : Query := Dict.ofList [("a", ""), ("b", "")]
    parse "http://[::1]:3000" defaultPath = .ok loopback ∧
      fields (loopback.connectionUrl 4 (some "%41") 1 .nil) ≠
        (parameters 4 (some "%41") 1 .nil).map (fun p => (p.1, some (Text.utf8 p.2.toList))) ∧
      one ≠ two ∧ loopback.connectionUrl 4 none 1 one = loopback.connectionUrl 4 none 1 two ∧
      fields (loopback.connectionUrl 4 none 1 one) ≠
        (parameters 4 none 1 one).map (fun p => (p.1, some (Text.utf8 p.2.toList))) := by
  decide +kernel

end RealtimeClient.Endpoint
