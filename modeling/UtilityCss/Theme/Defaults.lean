import UtilityCss.Theme.Basic

namespace UtilityCss.Theme

def scaleOf (shades : List (String × String)) : Color :=
  .scale (.ofList shades)

def defaultColors : Table String Color := .ofList [
  ("transparent", .flat "transparent"),
  ("current", .flat "currentColor"),
  ("inherit", .flat "inherit"),
  ("white", .flat "#ffffff"),
  ("black", .flat "#000000"),
  ("gray", scaleOf [
    ("50", "#f9fafb"), ("100", "#f3f4f6"), ("200", "#e5e7eb"), ("300", "#d1d5db"),
    ("400", "#9ca3af"), ("500", "#6b7280"), ("600", "#4b5563"), ("700", "#374151"),
    ("800", "#1f2937"), ("900", "#111827")]),
  ("slate", scaleOf [
    ("100", "#f1f5f9"), ("300", "#cbd5e1"), ("500", "#64748b"), ("700", "#334155"),
    ("900", "#0f172a"), ("950", "#020617")]),
  ("blue", scaleOf [
    ("50", "#eff6ff"), ("100", "#dbeafe"), ("400", "#60a5fa"), ("500", "#3b82f6"),
    ("600", "#2563eb"), ("700", "#1d4ed8")]),
  ("red", scaleOf [
    ("100", "#fee2e2"), ("500", "#ef4444"), ("600", "#dc2626")]),
  ("green", scaleOf [
    ("100", "#d1fae5"), ("500", "#10b981"), ("600", "#059669")]),
  ("yellow", scaleOf [
    ("400", "#facc15"), ("500", "#eab308")]),
  ("purple", scaleOf [
    ("400", "#c084fc"), ("500", "#a855f7"), ("600", "#9333ea")]),
  ("starlight", scaleOf [
    ("blue", "#00d4ff"), ("peach", "#ffb38a"), ("orange", "#ff7e5f"), ("deep", "#08081a")])]

def defaultSpacing : Table String String := .ofList [
  ("0", "0px"), ("px", "1px"), ("0.5", "0.125rem"), ("1", "0.25rem"), ("1.5", "0.375rem"),
  ("2", "0.5rem"), ("2.5", "0.625rem"), ("3", "0.75rem"), ("4", "1rem"), ("5", "1.25rem"),
  ("6", "1.5rem"), ("8", "2rem"), ("10", "2.5rem"), ("12", "3rem"), ("16", "4rem"), ("20", "5rem"),
  ("24", "6rem"), ("32", "8rem"), ("64", "16rem"), ("128", "32rem"), ("144", "36rem")]

def defaultFontSize : Table String String := .ofList [
  ("xs", "0.75rem"), ("sm", "0.875rem"), ("base", "1rem"), ("lg", "1.125rem"), ("xl", "1.25rem"),
  ("2xl", "1.5rem"), ("3xl", "2rem"), ("4xl", "2.5rem"), ("5xl", "3.5rem"), ("6xl", "4.5rem")]

def defaultBorderRadius : Table String String := .ofList [
  ("none", "0px"), ("sm", "0.125rem"), ("md", "0.375rem"), ("lg", "0.5rem"), ("xl", "0.75rem"),
  ("2xl", "1rem"), ("3xl", "1.5rem"), ("full", "9999px")]

def defaultShadows : Table String String := .ofList [
  ("sm", "0 1px 2px 0 rgb(0 0 0 / 0.05)"),
  ("md", "0 4px 6px -1px rgb(0 0 0 / 0.1), 0 2px 4px -2px rgb(0 0 0 / 0.1)"),
  ("lg", "0 10px 15px -3px rgb(0 0 0 / 0.1), 0 4px 6px -4px rgb(0 0 0 / 0.1)"),
  ("xl", "0 20px 25px -5px rgb(0 0 0 / 0.1), 0 8px 10px -6px rgb(0 0 0 / 0.1)"),
  ("inner", "inset 0 2px 4px 0 rgb(0 0 0 / 0.05)"), ("none", "none")]

def defaultMaxWidth : Table String String := .ofList [
  ("xs", "20rem"), ("sm", "24rem"), ("md", "28rem"), ("lg", "32rem"), ("xl", "36rem"),
  ("2xl", "42rem"), ("4xl", "56rem"), ("6xl", "72rem"), ("7xl", "80rem"), ("prose", "65ch"),
  ("full", "100%"), ("none", "none")]

def standard : Theme :=
  ⟨defaultColors, defaultSpacing, defaultFontSize, defaultBorderRadius, defaultShadows, defaultMaxWidth⟩

end UtilityCss.Theme
