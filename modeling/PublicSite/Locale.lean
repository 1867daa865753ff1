/-!
# Locales

The languages of the site, in the order in which they are listed everywhere.  A
locale is known by its code, which is matched exactly.
-/

namespace PublicSite

/-- The direction in which a text runs. -/
inductive Direction where
  | leftToRight
  | rightToLeft
  deriving DecidableEq, Repr

namespace Direction

/-- The code of a direction, as documents declare it. -/
def code : Direction → String
  | .leftToRight => "ltr"
  | .rightToLeft => "rtl"

/-- The direction with a code. -/
def ofCode? : String → Option Direction
  | "ltr" => some .leftToRight
  | "rtl" => some .rightToLeft
  | _ => none

@[simp]
theorem ofCode?_code (direction : Direction) : ofCode? direction.code = some direction := by
  cases direction <;> rfl

end Direction

/-- A language of the site. -/
inductive Locale where
  | en
  | zhCn
  | zhHk
  deriving DecidableEq, Repr

namespace Locale

/-- All locales in their order; the first one is the default. -/
def all : List Locale := [.en, .zhCn, .zhHk]

/-- The locale that is used when none is configured. -/
def default : Locale := .en

instance : Inhabited Locale := ⟨default⟩

/-- The code of a locale. -/
def code : Locale → String
  | .en => "en"
  | .zhCn => "zh-CN"
  | .zhHk => "zh-HK"

/-- The locale with a code. -/
def ofCode? : String → Option Locale
  | "en" => some .en
  | "zh-CN" => some .zhCn
  | "zh-HK" => some .zhHk
  | _ => none

/-- The direction in which a locale is written. -/
def direction : Locale → Direction
  | .en | .zhCn | .zhHk => .leftToRight

theorem mem_all (locale : Locale) : locale ∈ all := by
  cases locale <;> decide

@[simp]
theorem ofCode?_code (locale : Locale) : ofCode? locale.code = some locale := by
  cases locale <;> rfl

theorem ofCode?_eq_some_iff {text : String} {locale : Locale} :
    ofCode? text = some locale ↔ text = locale.code := by
  constructor
  · intro found
    unfold ofCode? at found
    split at found <;> simp_all [code] <;> subst found <;> rfl
  · rintro rfl
    exact ofCode?_code locale

end Locale

end PublicSite
