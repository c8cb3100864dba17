import Std.Data.HashMap

/-!
# Simple case folding

Two characters are the same up to case when their simple case foldings agree. The foldings are
listed as arithmetic runs; `orbit` gives the whole class of a character, which is what a
case-insensitive character class is closed under.
-/

namespace ScopeScanner.Unicode

/-- A run of characters folded by one shift: `count` code points from `start` in steps of
`stride`, each folded to the code point `shift` further on. -/
structure FoldRun where
  start : Nat
  stride : Nat
  count : Nat
  shift : Int

/-- All characters that fold to another character. -/
def foldRuns : List FoldRun := [
  ⟨65, 1, 26, 32⟩, ⟨181, 1, 1, 775⟩, ⟨192, 1, 23, 32⟩, ⟨216, 1, 7, 32⟩, ⟨256, 2, 24, 1⟩,
  ⟨306, 2, 3, 1⟩, ⟨313, 2, 8, 1⟩, ⟨330, 2, 23, 1⟩, ⟨376, 1, 1, -121⟩, ⟨377, 2, 3, 1⟩,
  ⟨383, 1, 1, -268⟩, ⟨385, 1, 1, 210⟩, ⟨386, 2, 2, 1⟩, ⟨390, 1, 1, 206⟩, ⟨391, 1, 1, 1⟩,
  ⟨393, 1, 2, 205⟩, ⟨395, 1, 1, 1⟩, ⟨398, 1, 1, 79⟩, ⟨399, 1, 1, 202⟩, ⟨400, 1, 1, 203⟩,
  ⟨401, 1, 1, 1⟩, ⟨403, 1, 1, 205⟩, ⟨404, 1, 1, 207⟩, ⟨406, 1, 1, 211⟩, ⟨407, 1, 1, 209⟩,
  ⟨408, 1, 1, 1⟩, ⟨412, 1, 1, 211⟩, ⟨413, 1, 1, 213⟩, ⟨415, 1, 1, 214⟩, ⟨416, 2, 3, 1⟩,
  ⟨422, 1, 1, 218⟩, ⟨423, 1, 1, 1⟩, ⟨425, 1, 1, 218⟩, ⟨428, 1, 1, 1⟩, ⟨430, 1, 1, 218⟩,
  ⟨431, 1, 1, 1⟩, ⟨433, 1, 2, 217⟩, ⟨435, 2, 2, 1⟩, ⟨439, 1, 1, 219⟩, ⟨440, 1, 1, 1⟩,
  ⟨444, 1, 1, 1⟩, ⟨452, 1, 1, 2⟩, ⟨453, 1, 1, 1⟩, ⟨455, 1, 1, 2⟩, ⟨456, 1, 1, 1⟩, ⟨458, 1, 1, 2⟩,
  ⟨459, 2, 9, 1⟩, ⟨478, 2, 9, 1⟩, ⟨497, 1, 1, 2⟩, ⟨498, 2, 2, 1⟩, ⟨502, 1, 1, -97⟩,
  ⟨503, 1, 1, -56⟩, ⟨504, 2, 20, 1⟩, ⟨544, 1, 1, -130⟩, ⟨546, 2, 9, 1⟩, ⟨570, 1, 1, 10795⟩,
  ⟨571, 1, 1, 1⟩, ⟨573, 1, 1, -163⟩, ⟨574, 1, 1, 10792⟩, ⟨577, 1, 1, 1⟩, ⟨579, 1, 1, -195⟩,
  ⟨580, 1, 1, 69⟩, ⟨581, 1, 1, 71⟩, ⟨582, 2, 5, 1⟩, ⟨837, 1, 1, 116⟩, ⟨880, 2, 2, 1⟩,
  ⟨886, 1, 1, 1⟩, ⟨895, 1, 1, 116⟩, ⟨902, 1, 1, 38⟩, ⟨904, 1, 3, 37⟩, ⟨908, 1, 1, 64⟩,
  ⟨910, 1, 2, 63⟩, ⟨913, 1, 17, 32⟩, ⟨931, 1, 9, 32⟩, ⟨962, 1, 1, 1⟩, ⟨975, 1, 1, 8⟩,
  ⟨976, 1, 1, -30⟩, ⟨977, 1, 1, -25⟩, ⟨981, 1, 1, -15⟩, ⟨982, 1, 1, -22⟩, ⟨984, 2, 12, 1⟩,
  ⟨1008, 1, 1, -54⟩, ⟨1009, 1, 1, -48⟩, ⟨1012, 1, 1, -60⟩, ⟨1013, 1, 1, -64⟩, ⟨1015, 1, 1, 1⟩,
  ⟨1017, 1, 1, -7⟩, ⟨1018, 1, 1, 1⟩, ⟨1021, 1, 3, -130⟩, ⟨1024, 1, 16, 80⟩, ⟨1040, 1, 32, 32⟩,
  ⟨1120, 2, 17, 1⟩, ⟨1162, 2, 27, 1⟩, ⟨1216, 1, 1, 15⟩, ⟨1217, 2, 7, 1⟩, ⟨1232, 2, 48, 1⟩,
  ⟨1329, 1, 38, 48⟩, ⟨4256, 1, 38, 7264⟩, ⟨4295, 1, 1, 7264⟩, ⟨4301, 1, 1, 7264⟩, ⟨5112, 1, 6, -8⟩,
  ⟨7296, 1, 1, -6222⟩, ⟨7297, 1, 1, -6221⟩, ⟨7298, 1, 1, -6212⟩, ⟨7299, 1, 2, -6210⟩,
  ⟨7301, 1, 1, -6211⟩, ⟨7302, 1, 1, -6204⟩, ⟨7303, 1, 1, -6180⟩, ⟨7304, 1, 1, 35267⟩,
  ⟨7305, 1, 1, 1⟩, ⟨7312, 1, 43, -3008⟩, ⟨7357, 1, 3, -3008⟩, ⟨7680, 2, 75, 1⟩, ⟨7835, 1, 1, -58⟩,
  ⟨7838, 1, 1, -7615⟩, ⟨7840, 2, 48, 1⟩, ⟨7944, 1, 8, -8⟩, ⟨7960, 1, 6, -8⟩, ⟨7976, 1, 8, -8⟩,
  ⟨7992, 1, 8, -8⟩, ⟨8008, 1, 6, -8⟩, ⟨8025, 2, 4, -8⟩, ⟨8040, 1, 8, -8⟩, ⟨8072, 1, 8, -8⟩,
  ⟨8088, 1, 8, -8⟩, ⟨8104, 1, 8, -8⟩, ⟨8120, 1, 2, -8⟩, ⟨8122, 1, 2, -74⟩, ⟨8124, 1, 1, -9⟩,
  ⟨8126, 1, 1, -7173⟩, ⟨8136, 1, 4, -86⟩, ⟨8140, 1, 1, -9⟩, ⟨8147, 1, 1, -7235⟩, ⟨8152, 1, 2, -8⟩,
  ⟨8154, 1, 2, -100⟩, ⟨8163, 1, 1, -7219⟩, ⟨8168, 1, 2, -8⟩, ⟨8170, 1, 2, -112⟩, ⟨8172, 1, 1, -7⟩,
  ⟨8184, 1, 2, -128⟩, ⟨8186, 1, 2, -126⟩, ⟨8188, 1, 1, -9⟩, ⟨8486, 1, 1, -7517⟩,
  ⟨8490, 1, 1, -8383⟩, ⟨8491, 1, 1, -8262⟩, ⟨8498, 1, 1, 28⟩, ⟨8544, 1, 16, 16⟩, ⟨8579, 1, 1, 1⟩,
  ⟨9398, 1, 26, 26⟩, ⟨11264, 1, 48, 48⟩, ⟨11360, 1, 1, 1⟩, ⟨11362, 1, 1, -10743⟩,
  ⟨11363, 1, 1, -3814⟩, ⟨11364, 1, 1, -10727⟩, ⟨11367, 2, 3, 1⟩, ⟨11373, 1, 1, -10780⟩,
  ⟨11374, 1, 1, -10749⟩, ⟨11375, 1, 1, -10783⟩, ⟨11376, 1, 1, -10782⟩, ⟨11378, 1, 1, 1⟩,
  ⟨11381, 1, 1, 1⟩, ⟨11390, 1, 2, -10815⟩, ⟨11392, 2, 50, 1⟩, ⟨11499, 2, 2, 1⟩, ⟨11506, 1, 1, 1⟩,
  ⟨42560, 2, 23, 1⟩, ⟨42624, 2, 14, 1⟩, ⟨42786, 2, 7, 1⟩, ⟨42802, 2, 31, 1⟩, ⟨42873, 2, 2, 1⟩,
  ⟨42877, 1, 1, -35332⟩, ⟨42878, 2, 5, 1⟩, ⟨42891, 1, 1, 1⟩, ⟨42893, 1, 1, -42280⟩,
  ⟨42896, 2, 2, 1⟩, ⟨42902, 2, 10, 1⟩, ⟨42922, 1, 1, -42308⟩, ⟨42923, 1, 1, -42319⟩,
  ⟨42924, 1, 1, -42315⟩, ⟨42925, 1, 1, -42305⟩, ⟨42926, 1, 1, -42308⟩, ⟨42928, 1, 1, -42258⟩,
  ⟨42929, 1, 1, -42282⟩, ⟨42930, 1, 1, -42261⟩, ⟨42931, 1, 1, 928⟩, ⟨42932, 2, 8, 1⟩,
  ⟨42948, 1, 1, -48⟩, ⟨42949, 1, 1, -42307⟩, ⟨42950, 1, 1, -35384⟩, ⟨42951, 2, 2, 1⟩,
  ⟨42955, 1, 1, -42343⟩, ⟨42956, 1, 1, 1⟩, ⟨42960, 1, 1, 1⟩, ⟨42966, 2, 3, 1⟩,
  ⟨42972, 1, 1, -42561⟩, ⟨42997, 1, 1, 1⟩, ⟨43888, 1, 80, -38864⟩, ⟨64261, 1, 1, 1⟩,
  ⟨65313, 1, 26, 32⟩, ⟨66560, 1, 40, 40⟩, ⟨66736, 1, 36, 40⟩, ⟨66928, 1, 11, 39⟩,
  ⟨66940, 1, 15, 39⟩, ⟨66956, 1, 7, 39⟩, ⟨66964, 1, 2, 39⟩, ⟨68736, 1, 51, 64⟩, ⟨68944, 1, 22, 32⟩,
  ⟨71840, 1, 32, 32⟩, ⟨93760, 1, 32, 32⟩, ⟨125184, 1, 34, 34⟩]

/-- The pairs of a code point and its folding that a run stands for. -/
def FoldRun.pairs (run : FoldRun) : List (Nat × Nat) :=
  (List.range run.count).map fun i =>
    let code := run.start + run.stride * i
    (code, (code + run.shift).toNat)

/-- The folding of every code point that is not its own folding. -/
def foldTable : Std.HashMap Nat Nat :=
  foldRuns.foldl (fun table run => run.pairs.foldl (fun table p => table.insert p.1 p.2) table) ∅

/-- The code points, other than the folding itself, that share a folding. -/
def unfoldTable : Std.HashMap Nat (List Nat) :=
  foldRuns.foldl
    (fun table run =>
      run.pairs.foldl (fun table p => table.insert p.2 (p.1 :: table.getD p.2 [])) table) ∅

/-- The simple case folding of a character. -/
def fold (c : Char) : Char :=
  Char.ofNat (foldTable.getD c.toNat c.toNat)

/-- The characters equal to `c` up to case, `c` included. -/
def orbit (c : Char) : List Char :=
  fold c :: (unfoldTable.getD (fold c).toNat []).map Char.ofNat

end ScopeScanner.Unicode
