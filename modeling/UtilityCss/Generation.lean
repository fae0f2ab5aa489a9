import UtilityCss.Config.Basic
import UtilityCss.Resolver
import UtilityCss.Stylesheet.Text

namespace UtilityCss

structure Generation where
  css : String
  tokens : List String
  resolved : Table String (List Rule)

namespace Generation

def unresolved (g : Generation) : List String :=
  g.tokens.filter fun t => !g.resolved.contains t

def ruleCount (g : Generation) : Nat :=
  g.resolved.values.flatten.length

end Generation

namespace Config

def defaultBanner : String :=
  "/*! QuantumCSS - utility-first CSS generated just in time */"

def lineRule (selector : String) (declarations : List (String × String)) : String :=
  selector ++ " \x7b " ++ " ".intercalate (Rule.linesOf declarations) ++ " \x7d\n"

def preflightText : String := String.join [
  lineRule "*, ::before, ::after" [("box-sizing", "border-box"), ("border-width", "0"),
    ("border-style", "solid"), ("border-color", "#e5e7eb")],
  lineRule "html" [("line-height", "1.5"), ("-webkit-text-size-adjust", "100%"),
    ("font-family", "Inter, ui-sans-serif, system-ui, sans-serif")],
  lineRule "body" [("margin", "0"), ("line-height", "inherit")],
  lineRule "img" [("display", "block"), ("max-width", "100%"), ("height", "auto")],
  lineRule "button" [("cursor", "pointer"), ("background", "transparent"), ("padding", "0"),
    ("color", "inherit"), ("font", "inherit")]]

variable (c : Config)

def mergedTheme : Theme :=
  Theme.standard.merge c.theme

def resolver : Resolver :=
  .standard c.mergedTheme c.presets

def bannerText : String :=
  c.banner.getD defaultBanner

def withBanner (gap css : String) : String :=
  if c.bannerText.isEmpty then css else c.bannerText ++ gap ++ css

def opening : Stylesheet.Opening :=
  ⟨some c.mergedTheme.properties, if c.preflight then some preflightText else none⟩

def generate (classes : List String) (banner : Bool) : Except Fault Generation := do
  let tokens := Resolver.sorted classes
  let resolved ← c.resolver.resolveAll tokens
  let css := Stylesheet.emit c.opening Vocabulary.breakpoints resolved
  return ⟨if banner then c.withBanner "\n\n" css else css, tokens, resolved⟩

end Config

end UtilityCss
