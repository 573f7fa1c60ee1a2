import Curation.Proofs.Check.Amounts
import Curation.Proofs.Number.Numerals

/-! Minimums of a balance. A minimum is written in whole tokens and turned into base units. That is
exact for up to twenty-eight digits, and it keeps the order of amounts of any length, so that
nobody passes a higher minimum who does not pass a lower one. -/
namespace Curation.Check

open Chain (parseUnits)
open Decimal (Numeral Fits signed size roundedSize truncate)
open Holdings (total erc20 fanTokenChain)
open Program (ok_of_toOption)

/-! ## Written minimums -/

/-- The text that an amount is read from. A blank amount is zero. -/
def amountText : Json → String
  | .null | .str "" => "0"
  | amount => amount.display

/-- A value writes an amount, which is finite. -/
def Writes (amount : Json) (a : ℚ) : Prop :=
  ∃ negative c e, Decimal.read? (amountText amount) = some (.finite negative c e) ∧
    a = signed negative (size c e)

/-- An amount of at most so many digits, wherever its point stands. -/
def WithinDigits (n : Nat) (a : ℚ) : Prop := ∃ (m : Nat) (k : Int), m < 10 ^ n ∧ |a| = size m k

variable {amount lower higher : Json} {a b : ℚ} {d : Nat} {numeral : Numeral}

private theorem writes_of_text (text : amountText amount = numeral.text) (sound : numeral.Sound)
    (writable : numeral.Writable) : Writes amount numeral.value := by
  refine ⟨_, _, _, ?_, numeral.value_eq⟩
  rw [text]
  exact sound.reads writable

theorem writes_numeral (sound : numeral.Sound) (writable : numeral.Writable) :
    Writes (.str numeral.text) numeral.value := by
  have full : numeral.text ≠ "" := by
    obtain ⟨c, rest, body, -⟩ := sound.lead
    intro empty
    have none := congrArg String.toList empty
    simp [Numeral.text, body] at none
  have text : amountText (.str numeral.text) = numeral.text := by
    rw [amountText]
    · rfl
    · intro same
      cases same
    · exact fun same => full (Json.str.inj same)
  exact writes_of_text text sound writable

theorem writes_int {n : Int} (narrow : |(n : ℚ)| < 10 ^ (Decimal.greatestExponent + 1)) :
    Writes (.int n) n := by
  have text : amountText (.int n) = (Numeral.ofInt n).text := by
    rw [Numeral.text_ofInt]
    exact String.ofList_toList
  have whole : size n.natAbs 0 = |(n : ℚ)| := by simp [size]
  have writable : (Numeral.ofInt n).Writable := by
    have last : (Numeral.ofInt n).exponent = 0 := rfl
    refine ⟨by rw [last]; decide, ?_⟩
    rw [Numeral.coefficient_ofInt, last]
    rcases Nat.eq_zero_or_pos n.natAbs with zero | positive
    · rw [zero]
      decide
    · have few := (Decimal.size_lt_ten_iff positive).mp (whole ▸ narrow)
      unfold Decimal.greatestExponent at few
      unfold Decimal.widestExponent
      omega
  have writes := writes_of_text text (Numeral.sound_ofInt n) writable
  rwa [Numeral.value_ofInt] at writes

/-! ## Base units -/

section Units

variable {negative : Bool} {c : Nat} {e : Int}

theorem scaled_eq (negative : Bool) (c : Nat) (e : Int) (d : Nat) :
    signed negative (size c e) * 10 ^ d = signed negative (size c (e + d)) := by
  rw [Decimal.signed_mul, size, size, mul_assoc, zpow_add₀ (by norm_num), zpow_natCast]

theorem fits_scaled_iff : Fits (signed negative (size c e) * 10 ^ d) ↔ Fits (size c (e + d)) := by
  have nonneg := Decimal.size_nonneg c (e + d)
  rw [scaled_eq, Fits, Fits, Decimal.abs_signed nonneg, abs_of_nonneg nonneg]

theorem parseUnits_eq {value : Decimal} (read : Decimal.read? (amountText amount) = some value) (decimals : Int) :
    parseUnits amount decimals = (value.toUnits decimals).mapError .amount := by
  unfold parseUnits
  extract_lets text
  have found : Decimal.read? text = some value := read
  simp only [found]
  cases value.toUnits decimals with
  | ok units => rfl
  | error fault => rfl

private theorem narrow (least : d ≤ 255) : (d : Int).natAbs ≤ Decimal.greatestShift := by
  unfold Decimal.greatestShift Decimal.greatestExponent Decimal.precision
  omega

private theorem parseUnits_fits (least : d ≤ 255)
    (read : Decimal.read? (amountText amount) = some (.finite negative c e)) (fits : Fits (size c (e + d))) :
    parseUnits amount d = .ok (truncate (signed negative (roundedSize c (e + d)))) := by
  rw [parseUnits_eq read, Decimal.toUnits_finite (narrow least) fits]
  rfl

/-- An amount has base units exactly if these are in range. -/
theorem parseUnits_ok_iff (least : d ≤ 255) (writes : Writes amount a) :
    Fits (a * 10 ^ d) ↔ ∃ units, parseUnits amount d = .ok units := by
  obtain ⟨negative, c, e, read, rfl⟩ := writes
  rw [fits_scaled_iff]
  constructor
  · exact fun fits => ⟨_, parseUnits_fits least read fits⟩
  · rintro ⟨units, found⟩
    by_contra large
    rw [parseUnits_eq read, Decimal.toUnits_tooLarge (narrow least) large] at found
    cases found

/-- An amount of at most twenty-eight digits is shifted exactly, and only its fraction is lost. -/
theorem parseUnits_exact (least : d ≤ 255) (writes : Writes amount a) (few : WithinDigits 28 a)
    (fits : Fits (a * 10 ^ d)) : parseUnits amount d = .ok (truncate (a * 10 ^ d)) := by
  obtain ⟨negative, c, e, read, rfl⟩ := writes
  obtain ⟨m, k, short, same⟩ := few
  rw [Decimal.abs_signed (Decimal.size_nonneg c e)] at same
  have written : size c (e + d) = size m (k + d) := by
    have shift (c : Nat) (e : Int) : size c (e + d) = size c e * 10 ^ d := by
      rw [size, size, mul_assoc, zpow_add₀ (by norm_num), zpow_natCast]
    rw [shift, shift, same]
  rw [parseUnits_fits least read (fits_scaled_iff.mp fits), scaled_eq,
    Decimal.roundedSize_exact short written, written]

/-- Of two amounts the greater has no fewer base units. -/
theorem parseUnits_mono (least : d ≤ 255) (writes : Writes lower a) (writes' : Writes higher b) (le : a ≤ b)
    (fits : Fits (a * 10 ^ d)) (fits' : Fits (b * 10 ^ d)) :
    ∃ units units', parseUnits lower d = .ok units ∧ parseUnits higher d = .ok units' ∧ units ≤ units' := by
  obtain ⟨negative, c, e, read, rfl⟩ := writes
  obtain ⟨negative', c', e', read', rfl⟩ := writes'
  refine ⟨_, _, parseUnits_fits least read (fits_scaled_iff.mp fits),
    parseUnits_fits least read' (fits_scaled_iff.mp fits'), Decimal.truncate_mono ?_⟩
  apply Decimal.signed_roundedSize_mono
  rw [← scaled_eq, ← scaled_eq]
  gcongr

end Units

/-! ## Admission -/

/-- The checks that weigh a token against a minimum. -/
inductive Scale where
  | token
  | fanToken
  | channelFanToken

namespace Scale

def entry : Scale → Entry
  | token => erc20
  | fanToken => Holdings.fanToken
  | channelFanToken => Holdings.channelFanToken

/-- The token that is weighed. -/
def Weighs (scale : Scale) (ctx : Context) (chain contract : String) : Prop :=
  match scale with
  | token => Holdings.token ctx = .ok (chain, contract)
  | fanToken => chain = fanTokenChain ∧ PicksFanToken ctx contract
  | channelFanToken => chain = fanTokenChain ∧ NamesFanToken ctx contract

/-- What counts besides the minimum. -/
def Counts : Scale → Int → Prop
  | token, held => 0 < held
  | fanToken, _ | channelFanToken, _ => True

end Scale

variable {σ : Type} {answer : (ask : Ask) → σ → Answer ask × σ} {state : σ} {ctx other : Context}
  {scale : Scale} {chain contract : String}

theorem Scale.passes_iff (weighs : scale.Weighs ctx chain contract) :
    Passes answer state scale.entry ctx ↔
      ∃ held, ((weigh ctx chain contract).run answer state).1 = .ok (held, true) ∧ scale.Counts held := by
  cases scale with
  | token => exact passes_erc20 weighs
  | fanToken =>
    obtain ⟨rfl, picks⟩ := weighs
    simp only [Counts, and_true]
    exact passes_fanToken picks
  | channelFanToken =>
    obtain ⟨rfl, names⟩ := weighs
    simp only [Counts, and_true]
    exact passes_channelFanToken names

/-- The same token is weighed for the same user, once against a lower minimum and once against a higher one. -/
structure Raises (scale : Scale) (lower higher : Context) (chain contract : String) (a b : ℚ) : Prop where
  user : higher.user = lower.user
  directory : higher.directory = lower.directory
  weighs : scale.Weighs lower chain contract
  weighs' : scale.Weighs higher chain contract
  writes : Writes (lower.arg "minBalance") a
  writes' : Writes (higher.arg "minBalance") b
  le : a ≤ b

/-- What reaches the higher minimum reaches the lower one. -/
theorem Raises.weigh (raises : Raises scale ctx other chain contract a b) (least : d ≤ 255)
    (told : ((ofFetch (Remote.Tokens.decimals ctx.directory chain contract)).run answer state).1 = .ok (d : Int))
    (fits : Fits (a * 10 ^ d)) {held : Int}
    (weighed : ((Check.weigh other chain contract).run answer state).1 = .ok (held, true)) :
    ((Check.weigh ctx chain contract).run answer state).1 = .ok (held, true) := by
  have same : total other chain contract = total ctx chain contract := by
    simp only [total, raises.user, raises.directory]
  obtain ⟨decimals, required', told', summed, read', reached⟩ := weigh_ok.mp weighed
  rw [raises.directory] at told' summed
  rw [same] at summed
  rw [told] at told'
  cases told'
  have fits' : Fits (b * 10 ^ d) := (parseUnits_ok_iff least raises.writes').mpr ⟨required', read'⟩
  obtain ⟨units, units', read, again, le⟩ :=
    parseUnits_mono least raises.writes raises.writes' raises.le fits fits'
  rw [read'] at again
  cases again
  refine weigh_ok.mpr ⟨d, units, told, summed, read, ?_⟩
  have enough : required' ≤ held := of_decide_eq_true reached.symm
  exact (decide_eq_true (le.trans enough)).symm

/-- Who passes the higher minimum passes the lower one. -/
theorem Raises.passes (raises : Raises scale ctx other chain contract a b) (least : d ≤ 255)
    (told : ((ofFetch (Remote.Tokens.decimals ctx.directory chain contract)).run answer state).1 = .ok (d : Int))
    (fits : Fits (a * 10 ^ d)) (passes : Passes answer state scale.entry other) :
    Passes answer state scale.entry ctx := by
  obtain ⟨held, weighed, counts⟩ := (Scale.passes_iff raises.weighs').mp passes
  exact (Scale.passes_iff raises.weighs).mpr ⟨held, raises.weigh least told fits weighed, counts⟩

end Curation.Check
