import SmartWebGateway.Poller.Codecs
import Mathlib.Tactic

/-!
# Values with labels

The `values` of a byte parameter become two tables, one from bytes to labels and
one back. Keys are texts, read by `atoi` and cut down to a byte; of two members
for one byte, and of two bytes with one label, the tables keep one. A byte without
a label is shown as a number, which may be the label of another.
-/
namespace SmartWebGateway

open Foundation

section Lookup

variable {α β : Type} [DecidableEq α]

theorem lookup_filter_key (p : α → Bool) (entries : List (α × β)) (key : α) :
    (entries.filter fun entry => p entry.1).lookup key =
      if p key then entries.lookup key else none := by
  induction entries with
  | nil => simp
  | cons entry rest ih =>
    obtain ⟨key', value⟩ := entry
    by_cases hkey : key = key'
    · subst hkey
      by_cases hp : p key
      · simp [hp]
      · simpa [hp] using ih
    · have hne : (key == key') = false := by simpa using hkey
      rw [List.lookup_cons, hne, ← ih]
      by_cases hp : p key'
      · simp [hp, List.lookup_cons, hne]
      · simp [hp]

theorem exists_lookup_of_mem {entries : List (α × β)} {entry : α × β} (h : entry ∈ entries) :
    ∃ value, entries.lookup entry.1 = some value := by
  rw [← Option.isSome_iff_exists, List.lookup_isSome_iff]
  exact ⟨entry, h, beq_self_eq_true _⟩

theorem mem_of_lookup {entries : List (α × β)} {key : α} {value : β}
    (h : entries.lookup key = some value) : (key, value) ∈ entries := by
  obtain ⟨before, after, rfl, _⟩ := List.lookup_eq_some_iff.mp h
  simp

end Lookup

def digits? (digits : List Char) : Option ℕ :=
  if digits ≠ [] ∧ digits.all Char.isDigit then some (Nat.ofDigitChars 10 digits 0) else none

/-- The number that a decimal text stands for, with a sign or without one. -/
def decimal? (text : String) : Option ℤ :=
  match text.toList with
  | '-' :: digits => (digits? digits).map fun (k : ℕ) => -(k : ℤ)
  | '+' :: digits => (digits? digits).map fun (k : ℕ) => (k : ℤ)
  | digits => (digits? digits).map fun (k : ℕ) => (k : ℤ)

namespace TSmartWebClass

theorem leadingNumber_digits (digits : List Char) (h : ∀ c ∈ digits, c.isDigit) (number : ℕ) :
    leadingNumber number digits = Nat.ofDigitChars 10 digits number := by
  induction digits generalizing number with
  | nil => rfl
  | cons c rest ih =>
    rw [leadingNumber, if_pos (h c List.mem_cons_self), Nat.ofDigitChars_cons]
    exact ih (fun c' hc' => h c' (List.mem_cons_of_mem c hc'))
      (10 * number + (c.toNat - '0'.toNat))

theorem leadingNumber_of_digits {digits : List Char} {k : ℕ} (h : digits? digits = some k) :
    leadingNumber 0 digits = k ∧ ∃ c rest, digits = c :: rest ∧ c.isDigit := by
  unfold digits? at h
  split_ifs at h with hdigits
  obtain ⟨hne, hall⟩ := hdigits
  have hdigit : ∀ c ∈ digits, c.isDigit := List.all_eq_true.mp hall
  have hleading := leadingNumber_digits digits hdigit 0
  rw [Option.some.inj h] at hleading
  obtain ⟨c, rest, rfl⟩ := List.exists_cons_of_ne_nil hne
  exact ⟨hleading, c, rest, rfl, hdigit c List.mem_cons_self⟩

theorem atoi_of_head {text : String} {c : Char} {rest : List Char} (htext : text.toList = c :: rest)
    (hc : c.isDigit ∨ c = '-' ∨ c = '+') :
    atoi text = BitVec.ofInt 8 (max (-2 ^ 63) (min
      (if c = '-' then -leadingNumber 0 rest
        else if c = '+' then leadingNumber 0 rest else leadingNumber 0 (c :: rest))
      (2 ^ 63 - 1))) := by
  have hblanks : [' ', '\t', '\n', '\x0b', '\x0c', '\r'].all
      (fun c => !(c.isDigit || c == '-' || c == '+')) := by decide
  have hdrop : text.toList.dropWhile
      (fun c => decide (c ∈ [' ', '\t', '\n', '\x0b', '\x0c', '\r'])) = c :: rest := by
    rw [htext]
    apply List.dropWhile_cons_of_neg
    intro hblank
    have hnot := List.all_eq_true.mp hblanks c (of_decide_eq_true hblank)
    rcases hc with hc | rfl | rfl
    · simp [hc] at hnot
    · exact absurd hnot (by decide)
    · exact absurd hnot (by decide)
  unfold atoi
  rw [hdrop]
  by_cases hminus : c = '-'
  · subst hminus
    rfl
  · by_cases hplus : c = '+'
    · subst hplus
      rfl
    · simp [hminus, hplus]

theorem atoi_of_decimal {text : String} {k : ℤ} (h : decimal? text = some k) (hlow : 0 ≤ k)
    (hhigh : k < 256) : atoi text = BitVec.ofInt 8 k := by
  have hclamp : max (-2 ^ 63) (min k (2 ^ 63 - 1)) = k := by omega
  unfold decimal? at h
  split at h
  next digits htext =>
    obtain ⟨n, hn, rfl⟩ := Option.map_eq_some_iff.mp h
    rw [atoi_of_head htext (by simp), if_pos rfl, (leadingNumber_of_digits hn).1, hclamp]
  next digits htext =>
    obtain ⟨n, hn, rfl⟩ := Option.map_eq_some_iff.mp h
    rw [atoi_of_head htext (by simp), if_neg (by decide), if_pos rfl,
      (leadingNumber_of_digits hn).1, hclamp]
  next =>
    obtain ⟨n, hn, rfl⟩ := Option.map_eq_some_iff.mp h
    obtain ⟨hvalue, c, rest, htext, hc⟩ := leadingNumber_of_digits hn
    have hminus : c ≠ '-' := by
      rintro rfl
      exact absurd hc (by decide)
    have hplus : c ≠ '+' := by
      rintro rfl
      exact absurd hc (by decide)
    rw [atoi_of_head htext (Or.inl hc), if_neg hminus, if_neg hplus, ← htext, hvalue, hclamp]

section Tables

variable {values : List (Byte × String)} {members : List (String × String)}

theorem lookup_insertValue (value : Byte) (label : String) (key : Byte) :
    (insertValue values value label).lookup key =
      if key = value then some ((values.lookup value).getD label) else values.lookup key := by
  cases hvalue : values.lookup value with
  | some old =>
    rw [insertValue, hvalue, Option.isSome_some, if_pos rfl, Option.getD_some]
    split_ifs with hkey
    · rw [hkey, hvalue]
    · rfl
  | none =>
    rw [insertValue, hvalue, Option.isSome_none, if_neg (by decide), List.lookup_append,
      lookup_filter_key (fun b => decide (b < value)), List.lookup_cons,
      lookup_filter_key (fun b => decide (value < b)), Option.getD_none]
    by_cases hkey : key = value
    · simp [hkey]
    · have hne : (key == value) = false := by simpa using hkey
      have hsides : key < value ∧ ¬ value < key ∨ ¬ key < value ∧ value < key := by
        have htoNat : key.toNat ≠ value.toNat := mt BitVec.eq_of_toNat_eq hkey
        simp only [BitVec.lt_def]
        omega
      rcases hsides with ⟨hless, hmore⟩ | ⟨hless, hmore⟩
      · simp [hkey, hne, hless, hmore]
      · simp [hkey, hne, hless, hmore]

/-- The entry of a byte is the one that its look-up finds. -/
def Functional (values : List (Byte × String)) : Prop :=
  ∀ entry ∈ values, values.lookup entry.1 = some entry.2

theorem Functional.insertValue (h : Functional values) (value : Byte) (label : String) :
    Functional (insertValue values value label) := by
  have hold : ∀ entry ∈ values, (TSmartWebClass.insertValue values value label).lookup entry.1 =
      some entry.2 := by
    intro entry hentry
    rw [lookup_insertValue]
    split_ifs with hkey
    · rw [← hkey, h entry hentry, Option.getD_some]
    · exact h entry hentry
  intro entry hentry
  by_cases hpresent : (values.lookup value).isSome
  · rw [TSmartWebClass.insertValue, if_pos hpresent] at hentry
    exact hold entry hentry
  · rw [TSmartWebClass.insertValue, if_neg hpresent, List.mem_append, List.mem_cons] at hentry
    rcases hentry with hentry | rfl | hentry
    · exact hold entry (List.mem_of_mem_filter hentry)
    · rw [lookup_insertValue, if_pos rfl, Option.not_isSome_iff_eq_none.mp hpresent,
        Option.getD_none]
    · exact hold entry (List.mem_of_mem_filter hentry)

def enumValues (members : List (String × String)) : List (Byte × String) :=
  members.foldl (fun values member => insertValue values (atoi member.1) member.2) []

/-- The label of the first member whose key is read as the byte. -/
def firstLabel (members : List (String × String)) (b : Byte) : Option String :=
  (members.find? fun member => atoi member.1 = b).map Prod.snd

theorem lookup_enumValues (members : List (String × String)) (b : Byte) :
    (enumValues members).lookup b = firstLabel members b := by
  suffices h : ∀ values : List (Byte × String),
      (members.foldl (fun values member => insertValue values (atoi member.1) member.2)
        values).lookup b = (values.lookup b).or (firstLabel members b) from h []
  induction members with
  | nil => simp [firstLabel]
  | cons member rest ih =>
    intro values
    rw [List.foldl_cons, ih, lookup_insertValue, firstLabel, firstLabel, List.find?_cons]
    by_cases hb : atoi member.1 = b
    · subst hb
      cases values.lookup (atoi member.1) <;> simp
    · simp [hb, Ne.symm hb]

theorem functional_enumValues (members : List (String × String)) :
    Functional (enumValues members) := by
  suffices h : ∀ values, Functional values → Functional
      (members.foldl (fun values member => insertValue values (atoi member.1) member.2) values) from
    h [] fun _ hentry => absurd hentry List.not_mem_nil
  induction members with
  | nil => exact fun _ h => h
  | cons member rest ih => exact fun values h => ih _ (h.insertValue _ _)

end Tables

theorem getCodec_values {data : ParameterObject} {members : List (String × String)}
    (hencoding : data.encoding = some "ubyte") (hvalues : data.values = some members) :
    getCodec data = .ok (.enum (enumValues members)) := by
  rw [getCodec, hencoding, hvalues]
  rfl

end TSmartWebClass

/-- What is asked of a picklist: every entry that stands for a number is written as this number and
shown for it, and a shown text that can be written is written as the byte that it was shown for. -/
structure ISmartWebCodec.Faithful (stod : String → Except String Double)
    (formatFloat : Double → String) (codec : ISmartWebCodec) (members : List (String × String)) :
    Prop where
  entries : ∀ member ∈ members, ∀ k, decimal? member.1 = some k →
    ∃ b : Byte, (b.toNat : ℤ) = k ∧ codec.encode stod member.2 = .ok [b] ∧
      ∀ rest, codec.decode formatFloat (b :: rest) = .ok member.2
  bytes : ∀ b rest text written, codec.decode formatFloat (b :: rest) = .ok text →
    codec.encode stod text = .ok written → written = [b]

/-- What it takes. Keys that stand for no byte, labels for two bytes and labels that are the number
of a byte without a label are each enough to spoil it. -/
structure Unambiguous (members : List (String × String)) : Prop where
  fits : ∀ member ∈ members, ∀ k, decimal? member.1 = some k → 0 ≤ k ∧ k < 256
  first : ∀ member ∈ members, (decimal? member.1).isSome →
    TSmartWebClass.firstLabel members (TSmartWebClass.atoi member.1) = some member.2
  distinct : ∀ b b' label, TSmartWebClass.firstLabel members b = some label →
    TSmartWebClass.firstLabel members b' = some label → b = b'
  numbers : ∀ b b' : Byte, TSmartWebClass.firstLabel members b = some (toString b'.toNat) →
    (TSmartWebClass.firstLabel members b').isSome

section Codec

open TSmartWebClass

variable {stod : String → Except String Double} {formatFloat : Double → String}
  {members : List (String × String)} {b : Byte} {text : String}

theorem decode_enumValues (rest : List Byte) :
    (ISmartWebCodec.enum (enumValues members)).decode formatFloat (b :: rest) =
      .ok ((firstLabel members b).getD (toString b.toNat)) := by
  rw [ISmartWebCodec.decode, List.headD_cons, lookup_enumValues]
  cases firstLabel members b <;> rfl

theorem encode_enumValues (stod : String → Except String Double)
    (members : List (String × String)) (text : String) :
    (∃ b, (ISmartWebCodec.enum (enumValues members)).encode stod text = .ok [b] ∧
        firstLabel members b = some text) ∨
      (∃ e, (ISmartWebCodec.enum (enumValues members)).encode stod text = .error e) ∧
        ∀ b, firstLabel members b ≠ some text := by
  rw [ISmartWebCodec.encode]
  cases hkey : ((enumValues members).map Prod.swap).lookup text with
  | some b =>
    left
    obtain ⟨⟨b', label⟩, hentry, hswap⟩ := List.mem_map.mp (mem_of_lookup hkey)
    cases hswap
    have hlabel := functional_enumValues members _ hentry
    rw [lookup_enumValues] at hlabel
    exact ⟨_, rfl, hlabel⟩
  | none =>
    right
    refine ⟨⟨_, rfl⟩, ?_⟩
    intro b hlabel
    rw [← lookup_enumValues] at hlabel
    have hmem := List.mem_map_of_mem (f := Prod.swap) (mem_of_lookup hlabel)
    obtain ⟨b', hb'⟩ := exists_lookup_of_mem hmem
    rw [Prod.swap_prod_mk, hkey] at hb'
    cases hb'

theorem atoi_toNat {k : ℤ} (h : decimal? text = some k) (hk : 0 ≤ k ∧ k < 256) :
    ((atoi text).toNat : ℤ) = k := by
  rw [atoi_of_decimal h hk.1 hk.2, BitVec.toNat_ofInt]
  omega

/-- A member is found for the byte that its key is read as, if not with its own label. -/
theorem firstLabel_isSome {member : String × String} (h : member ∈ members) :
    (firstLabel members (atoi member.1)).isSome := by
  rw [firstLabel, Option.isSome_map, List.find?_isSome]
  exact ⟨member, h, decide_eq_true rfl⟩

theorem Unambiguous.faithful (h : Unambiguous members) :
    (ISmartWebCodec.enum (enumValues members)).Faithful stod formatFloat members := by
  constructor
  · intro member hmember k hk
    have hfits := h.fits member hmember k hk
    have hfirst := h.first member hmember (by rw [hk]; rfl)
    refine ⟨atoi member.1, atoi_toNat hk hfits, ?_, ?_⟩
    · rcases encode_enumValues stod members member.2 with ⟨b, hok, hlabel⟩ | ⟨_, hnone⟩
      · rw [hok, h.distinct b _ _ hlabel hfirst]
      · exact absurd hfirst (hnone _)
    · intro rest
      rw [decode_enumValues, hfirst]
      rfl
  · intro b rest text written hdecode hencode
    rw [decode_enumValues] at hdecode
    rcases encode_enumValues stod members text with ⟨b', hok, hlabel⟩ | ⟨⟨e, herror⟩, _⟩
    · rw [hok] at hencode
      cases hshown : firstLabel members b with
      | some label =>
        rw [hshown] at hdecode
        cases hdecode
        rw [← Except.ok.inj hencode, h.distinct b' b _ hlabel hshown]
      | none =>
        rw [hshown] at hdecode
        cases hdecode
        have hsome := h.numbers b' b hlabel
        rw [hshown] at hsome
        cases hsome
    · rw [herror] at hencode
      cases hencode

/-- If nothing is mixed up, a label is written as the byte that it labels. -/
theorem ISmartWebCodec.Faithful.encode_firstLabel
    (h : (ISmartWebCodec.enum (enumValues members)).Faithful stod formatFloat members)
    (hlabel : firstLabel members b = some text) :
    (ISmartWebCodec.enum (enumValues members)).encode stod text = .ok [b] := by
  rcases encode_enumValues stod members text with ⟨b', hok, _⟩ | ⟨_, hnone⟩
  · have hdecode : (ISmartWebCodec.enum (enumValues members)).decode formatFloat [b] =
        .ok text := by
      rw [decode_enumValues, hlabel]
      rfl
    rw [hok, h.bytes b [] text [b'] hdecode hok]
  · exact absurd hlabel (hnone b)

theorem Unambiguous.of_faithful
    (h : (ISmartWebCodec.enum (enumValues members)).Faithful stod formatFloat members) :
    Unambiguous members := by
  have hfits : ∀ member ∈ members, ∀ k, decimal? member.1 = some k → 0 ≤ k ∧ k < 256 := by
    intro member hmember k hk
    obtain ⟨b, rfl, _⟩ := h.entries member hmember k hk
    exact ⟨Int.natCast_nonneg _, by exact_mod_cast b.isLt⟩
  constructor
  · exact hfits
  · intro member hmember hdecimal
    obtain ⟨k, hk⟩ := Option.isSome_iff_exists.mp hdecimal
    obtain ⟨b, hb, _, hdecode⟩ := h.entries member hmember k hk
    have hbyte : b = atoi member.1 := by
      apply BitVec.eq_of_toNat_eq
      have hread := atoi_toNat hk (hfits member hmember k hk)
      exact_mod_cast hb.trans hread.symm
    have hshown := hdecode []
    obtain ⟨label, hlabel⟩ := Option.isSome_iff_exists.mp (firstLabel_isSome hmember)
    rw [decode_enumValues, hbyte, hlabel] at hshown
    rw [hlabel, ← Except.ok.inj hshown]
    rfl
  · intro b b' label hb hb'
    have hsame := (h.encode_firstLabel hb).symm.trans (h.encode_firstLabel hb')
    exact (List.cons.inj (Except.ok.inj hsame)).1
  · intro b b' hlabel
    by_contra hnone
    have hdecode : (ISmartWebCodec.enum (enumValues members)).decode formatFloat [b'] =
        .ok (toString b'.toNat) := by
      rw [decode_enumValues, Option.not_isSome_iff_eq_none.mp hnone]
      rfl
    have hbytes := h.bytes b' [] _ [b] hdecode (h.encode_firstLabel hlabel)
    rw [(List.cons.inj hbytes).1] at hlabel
    rw [hlabel] at hnone
    exact hnone rfl

theorem exists_member_of_firstLabel {label : String} (h : firstLabel members b = some label) :
    ∃ member ∈ members, atoi member.1 = b ∧ member.2 = label := by
  rw [firstLabel, Option.map_eq_some_iff] at h
  obtain ⟨member, hfind, hlabel⟩ := h
  exact ⟨member, List.mem_of_find?_eq_some hfind, by simpa using List.find?_some hfind, hlabel⟩

theorem ne_toString_of_not_digits (h : ¬ text.toList.all Char.isDigit) (n : ℕ) :
    text ≠ toString n := by
  rintro rfl
  apply h
  rw [Nat.toString_eq_ofList_toDigits, String.toList_ofList, List.all_eq_true]
  intro c hc
  exact Nat.isDigit_of_mem_toDigits (by decide) (by decide) hc

/-- Picklists are unambiguous as one writes them: different numbers that fit into a byte, with
different words. -/
theorem Unambiguous.of_words
    (hkeys : ∀ member ∈ members, (decimal? member.1).any fun k => 0 ≤ k ∧ k < 256)
    (hbytes : (members.map fun member => atoi member.1).Nodup)
    (hlabels : (members.map Prod.snd).Nodup)
    (hwords : ∀ member ∈ members, ¬ member.2.toList.all Char.isDigit) : Unambiguous members := by
  constructor
  · intro member hmember k hk
    have hkey := hkeys member hmember
    rw [hk] at hkey
    simpa using hkey
  · intro member hmember _
    obtain ⟨label, hlabel⟩ := Option.isSome_iff_exists.mp (firstLabel_isSome hmember)
    obtain ⟨member', hmember', hbyte, rfl⟩ := exists_member_of_firstLabel hlabel
    have hsame : member' = member := List.inj_on_of_nodup_map hbytes hmember' hmember hbyte
    rwa [hsame] at hlabel
  · intro b b' label hb hb'
    obtain ⟨member, hmember, rfl, hlabel⟩ := exists_member_of_firstLabel hb
    obtain ⟨member', hmember', rfl, hlabel'⟩ := exists_member_of_firstLabel hb'
    have hsame : member = member' :=
      List.inj_on_of_nodup_map hlabels hmember hmember' (hlabel.trans hlabel'.symm)
    rw [hsame]
  · intro b b' hlabel
    obtain ⟨member, hmember, _, hnumber⟩ := exists_member_of_firstLabel hlabel
    exact absurd hnumber (ne_toString_of_not_digits (hwords member hmember) _)

end Codec

/-- The codec of a picklist is faithful to it exactly if the picklist is unambiguous. -/
theorem picklist_faithful_iff (stod : String → Except String Double)
    (formatFloat : Double → String) (data : ParameterObject) (members : List (String × String))
    (hencoding : data.encoding = some "ubyte") (hvalues : data.values = some members) :
    (∀ codec, TSmartWebClass.getCodec data = .ok codec →
      codec.Faithful stod formatFloat members) ↔ Unambiguous members := by
  rw [TSmartWebClass.getCodec_values hencoding hvalues]
  constructor
  · intro h
    exact .of_faithful (h _ rfl)
  · intro h codec hcodec
    cases hcodec
    exact h.faithful

def picklist (members : List (String × String)) : ParameterObject where
  id := 8
  type := some "picklist"
  encoding := some "ubyte"
  readOnly := none
  values := some members
  idBounds := by decide

def workModes : List (String × String) :=
  [("0", "Comfort"), ("1", "Economy"), ("2", "Schedule"), ("3", "Standby")]

theorem picklist_faithful_workModes :
    (ISmartWebCodec.enum (TSmartWebClass.enumValues workModes)).Faithful (fun _ => .error "stod")
      (fun _ => "") workModes :=
  (picklist_faithful_iff _ _ (picklist workModes) workModes rfl rfl).mpr
    (.of_words (by decide) (by decide) (by decide) (by decide)) _
    (TSmartWebClass.getCodec_values rfl rfl)

theorem exists_unfaithful {members : List (String × String)} (h : ¬ Unambiguous members) :
    ∃ codec, TSmartWebClass.getCodec (picklist members) = .ok codec ∧
      ¬ codec.Faithful (fun _ => .error "stod") (fun _ => "") members :=
  ⟨_, TSmartWebClass.getCodec_values rfl rfl, fun hfaithful => h (.of_faithful hfaithful)⟩

/-- A number as the label of another byte, keys beyond a byte, one label for two bytes. -/
theorem picklists_mixed_up :
    (∃ codec, TSmartWebClass.getCodec (picklist [("1", "0")]) = .ok codec ∧
      ¬ codec.Faithful (fun _ => .error "stod") (fun _ => "") [("1", "0")]) ∧
    (∃ codec, TSmartWebClass.getCodec (picklist [("256", "Auto")]) = .ok codec ∧
      ¬ codec.Faithful (fun _ => .error "stod") (fun _ => "") [("256", "Auto")]) ∧
    (∃ codec, TSmartWebClass.getCodec (picklist [("-1", "Off")]) = .ok codec ∧
      ¬ codec.Faithful (fun _ => .error "stod") (fun _ => "") [("-1", "Off")]) ∧
    ∃ codec, TSmartWebClass.getCodec (picklist [("1", "Low"), ("2", "Low")]) = .ok codec ∧
      ¬ codec.Faithful (fun _ => .error "stod") (fun _ => "") [("1", "Low"), ("2", "Low")] := by
  constructor
  · apply exists_unfaithful
    intro h
    exact absurd (h.numbers 1 0 (by decide)) (by decide)
  constructor
  · apply exists_unfaithful
    intro h
    exact absurd (h.fits _ (List.mem_singleton_self _) 256 (by decide)) (by decide)
  constructor
  · apply exists_unfaithful
    intro h
    exact absurd (h.fits _ (List.mem_singleton_self _) (-1) (by decide)) (by decide)
  · apply exists_unfaithful
    intro h
    exact absurd (h.distinct 1 2 "Low" (by decide) (by decide)) (by decide)

end SmartWebGateway
