import TokenConformance.Text.CodePoint

/-!
# Reference names — those that start with `i` to `o`

Each name as it is written behind the ampersand, with its semicolon where it has one, and the code
points it stands for.  Names are spelled out letter by letter, so that statements about all of
them can be settled by evaluation.
-/

namespace TokenConformance.Reference

/-- The names that start with `i`. -/
def smallI : List (List Char × Text) := [
  (['i', 'a', 'c', 'u', 't', 'e'], [0xED]),
  (['i', 'a', 'c', 'u', 't', 'e', ';'], [0xED]),
  (['i', 'c', ';'], [0x2063]),
  (['i', 'c', 'i', 'r', 'c'], [0xEE]),
  (['i', 'c', 'i', 'r', 'c', ';'], [0xEE]),
  (['i', 'c', 'y', ';'], [0x438]),
  (['i', 'e', 'c', 'y', ';'], [0x435]),
  (['i', 'e', 'x', 'c', 'l'], [0xA1]),
  (['i', 'e', 'x', 'c', 'l', ';'], [0xA1]),
  (['i', 'f', 'f', ';'], [0x21D4]),
  (['i', 'f', 'r', ';'], [0x1D526]),
  (['i', 'g', 'r', 'a', 'v', 'e'], [0xEC]),
  (['i', 'g', 'r', 'a', 'v', 'e', ';'], [0xEC]),
  (['i', 'i', ';'], [0x2148]),
  (['i', 'i', 'i', 'i', 'n', 't', ';'], [0x2A0C]),
  (['i', 'i', 'i', 'n', 't', ';'], [0x222D]),
  (['i', 'i', 'n', 'f', 'i', 'n', ';'], [0x29DC]),
  (['i', 'i', 'o', 't', 'a', ';'], [0x2129]),
  (['i', 'j', 'l', 'i', 'g', ';'], [0x133]),
  (['i', 'm', 'a', 'c', 'r', ';'], [0x12B]),
  (['i', 'm', 'a', 'g', 'e', ';'], [0x2111]),
  (['i', 'm', 'a', 'g', 'l', 'i', 'n', 'e', ';'], [0x2110]),
  (['i', 'm', 'a', 'g', 'p', 'a', 'r', 't', ';'], [0x2111]),
  (['i', 'm', 'a', 't', 'h', ';'], [0x131]),
  (['i', 'm', 'o', 'f', ';'], [0x22B7]),
  (['i', 'm', 'p', 'e', 'd', ';'], [0x1B5]),
  (['i', 'n', ';'], [0x2208]),
  (['i', 'n', 'c', 'a', 'r', 'e', ';'], [0x2105]),
  (['i', 'n', 'f', 'i', 'n', ';'], [0x221E]),
  (['i', 'n', 'f', 'i', 'n', 't', 'i', 'e', ';'], [0x29DD]),
  (['i', 'n', 'o', 'd', 'o', 't', ';'], [0x131]),
  (['i', 'n', 't', ';'], [0x222B]),
  (['i', 'n', 't', 'c', 'a', 'l', ';'], [0x22BA]),
  (['i', 'n', 't', 'e', 'g', 'e', 'r', 's', ';'], [0x2124]),
  (['i', 'n', 't', 'e', 'r', 'c', 'a', 'l', ';'], [0x22BA]),
  (['i', 'n', 't', 'l', 'a', 'r', 'h', 'k', ';'], [0x2A17]),
  (['i', 'n', 't', 'p', 'r', 'o', 'd', ';'], [0x2A3C]),
  (['i', 'o', 'c', 'y', ';'], [0x451]),
  (['i', 'o', 'g', 'o', 'n', ';'], [0x12F]),
  (['i', 'o', 'p', 'f', ';'], [0x1D55A]),
  (['i', 'o', 't', 'a', ';'], [0x3B9]),
  (['i', 'p', 'r', 'o', 'd', ';'], [0x2A3C]),
  (['i', 'q', 'u', 'e', 's', 't'], [0xBF]),
  (['i', 'q', 'u', 'e', 's', 't', ';'], [0xBF]),
  (['i', 's', 'c', 'r', ';'], [0x1D4BE]),
  (['i', 's', 'i', 'n', ';'], [0x2208]),
  (['i', 's', 'i', 'n', 'E', ';'], [0x22F9]),
  (['i', 's', 'i', 'n', 'd', 'o', 't', ';'], [0x22F5]),
  (['i', 's', 'i', 'n', 's', ';'], [0x22F4]),
  (['i', 's', 'i', 'n', 's', 'v', ';'], [0x22F3]),
  (['i', 's', 'i', 'n', 'v', ';'], [0x2208]),
  (['i', 't', ';'], [0x2062]),
  (['i', 't', 'i', 'l', 'd', 'e', ';'], [0x129]),
  (['i', 'u', 'k', 'c', 'y', ';'], [0x456]),
  (['i', 'u', 'm', 'l'], [0xEF]),
  (['i', 'u', 'm', 'l', ';'], [0xEF])]

/-- The names that start with `j`. -/
def smallJ : List (List Char × Text) := [
  (['j', 'c', 'i', 'r', 'c', ';'], [0x135]),
  (['j', 'c', 'y', ';'], [0x439]),
  (['j', 'f', 'r', ';'], [0x1D527]),
  (['j', 'm', 'a', 't', 'h', ';'], [0x237]),
  (['j', 'o', 'p', 'f', ';'], [0x1D55B]),
  (['j', 's', 'c', 'r', ';'], [0x1D4BF]),
  (['j', 's', 'e', 'r', 'c', 'y', ';'], [0x458]),
  (['j', 'u', 'k', 'c', 'y', ';'], [0x454])]

/-- The names that start with `k`. -/
def smallK : List (List Char × Text) := [
  (['k', 'a', 'p', 'p', 'a', ';'], [0x3BA]),
  (['k', 'a', 'p', 'p', 'a', 'v', ';'], [0x3F0]),
  (['k', 'c', 'e', 'd', 'i', 'l', ';'], [0x137]),
  (['k', 'c', 'y', ';'], [0x43A]),
  (['k', 'f', 'r', ';'], [0x1D528]),
  (['k', 'g', 'r', 'e', 'e', 'n', ';'], [0x138]),
  (['k', 'h', 'c', 'y', ';'], [0x445]),
  (['k', 'j', 'c', 'y', ';'], [0x45C]),
  (['k', 'o', 'p', 'f', ';'], [0x1D55C]),
  (['k', 's', 'c', 'r', ';'], [0x1D4C0])]

/-- The names that start with `l`. -/
def smallL : List (List Char × Text) := [
  (['l', 'A', 'a', 'r', 'r', ';'], [0x21DA]),
  (['l', 'A', 'r', 'r', ';'], [0x21D0]),
  (['l', 'A', 't', 'a', 'i', 'l', ';'], [0x291B]),
  (['l', 'B', 'a', 'r', 'r', ';'], [0x290E]),
  (['l', 'E', ';'], [0x2266]),
  (['l', 'E', 'g', ';'], [0x2A8B]),
  (['l', 'H', 'a', 'r', ';'], [0x2962]),
  (['l', 'a', 'c', 'u', 't', 'e', ';'], [0x13A]),
  (['l', 'a', 'e', 'm', 'p', 't', 'y', 'v', ';'], [0x29B4]),
  (['l', 'a', 'g', 'r', 'a', 'n', ';'], [0x2112]),
  (['l', 'a', 'm', 'b', 'd', 'a', ';'], [0x3BB]),
  (['l', 'a', 'n', 'g', ';'], [0x27E8]),
  (['l', 'a', 'n', 'g', 'd', ';'], [0x2991]),
  (['l', 'a', 'n', 'g', 'l', 'e', ';'], [0x27E8]),
  (['l', 'a', 'p', ';'], [0x2A85]),
  (['l', 'a', 'q', 'u', 'o'], [0xAB]),
  (['l', 'a', 'q', 'u', 'o', ';'], [0xAB]),
  (['l', 'a', 'r', 'r', ';'], [0x2190]),
  (['l', 'a', 'r', 'r', 'b', ';'], [0x21E4]),
  (['l', 'a', 'r', 'r', 'b', 'f', 's', ';'], [0x291F]),
  (['l', 'a', 'r', 'r', 'f', 's', ';'], [0x291D]),
  (['l', 'a', 'r', 'r', 'h', 'k', ';'], [0x21A9]),
  (['l', 'a', 'r', 'r', 'l', 'p', ';'], [0x21AB]),
  (['l', 'a', 'r', 'r', 'p', 'l', ';'], [0x2939]),
  (['l', 'a', 'r', 'r', 's', 'i', 'm', ';'], [0x2973]),
  (['l', 'a', 'r', 'r', 't', 'l', ';'], [0x21A2]),
  (['l', 'a', 't', ';'], [0x2AAB]),
  (['l', 'a', 't', 'a', 'i', 'l', ';'], [0x2919]),
  (['l', 'a', 't', 'e', ';'], [0x2AAD]),
  (['l', 'a', 't', 'e', 's', ';'], [0x2AAD, 0xFE00]),
  (['l', 'b', 'a', 'r', 'r', ';'], [0x290C]),
  (['l', 'b', 'b', 'r', 'k', ';'], [0x2772]),
  (['l', 'b', 'r', 'a', 'c', 'e', ';'], [0x7B]),
  (['l', 'b', 'r', 'a', 'c', 'k', ';'], [0x5B]),
  (['l', 'b', 'r', 'k', 'e', ';'], [0x298B]),
  (['l', 'b', 'r', 'k', 's', 'l', 'd', ';'], [0x298F]),
  (['l', 'b', 'r', 'k', 's', 'l', 'u', ';'], [0x298D]),
  (['l', 'c', 'a', 'r', 'o', 'n', ';'], [0x13E]),
  (['l', 'c', 'e', 'd', 'i', 'l', ';'], [0x13C]),
  (['l', 'c', 'e', 'i', 'l', ';'], [0x2308]),
  (['l', 'c', 'u', 'b', ';'], [0x7B]),
  (['l', 'c', 'y', ';'], [0x43B]),
  (['l', 'd', 'c', 'a', ';'], [0x2936]),
  (['l', 'd', 'q', 'u', 'o', ';'], [0x201C]),
  (['l', 'd', 'q', 'u', 'o', 'r', ';'], [0x201E]),
  (['l', 'd', 'r', 'd', 'h', 'a', 'r', ';'], [0x2967]),
  (['l', 'd', 'r', 'u', 's', 'h', 'a', 'r', ';'], [0x294B]),
  (['l', 'd', 's', 'h', ';'], [0x21B2]),
  (['l', 'e', ';'], [0x2264]),
  (['l', 'e', 'f', 't', 'a', 'r', 'r', 'o', 'w', ';'], [0x2190]),
  (['l', 'e', 'f', 't', 'a', 'r', 'r', 'o', 'w', 't', 'a', 'i', 'l', ';'], [0x21A2]),
  (['l', 'e', 'f', 't', 'h', 'a', 'r', 'p', 'o', 'o', 'n', 'd', 'o', 'w', 'n', ';'], [0x21BD]),
  (['l', 'e', 'f', 't', 'h', 'a', 'r', 'p', 'o', 'o', 'n', 'u', 'p', ';'], [0x21BC]),
  (['l', 'e', 'f', 't', 'l', 'e', 'f', 't', 'a', 'r', 'r', 'o', 'w', 's', ';'], [0x21C7]),
  (['l', 'e', 'f', 't', 'r', 'i', 'g', 'h', 't', 'a', 'r', 'r', 'o', 'w', ';'], [0x2194]),
  (['l', 'e', 'f', 't', 'r', 'i', 'g', 'h', 't', 'a', 'r', 'r', 'o', 'w', 's', ';'], [0x21C6]),
  (['l', 'e', 'f', 't', 'r', 'i', 'g', 'h', 't', 'h', 'a', 'r', 'p', 'o', 'o', 'n', 's', ';'],
    [0x21CB]),
  (['l', 'e', 'f', 't', 'r', 'i', 'g', 'h', 't', 's', 'q', 'u', 'i', 'g', 'a', 'r', 'r', 'o', 'w',
    ';'], [0x21AD]),
  (['l', 'e', 'f', 't', 't', 'h', 'r', 'e', 'e', 't', 'i', 'm', 'e', 's', ';'], [0x22CB]),
  (['l', 'e', 'g', ';'], [0x22DA]),
  (['l', 'e', 'q', ';'], [0x2264]),
  (['l', 'e', 'q', 'q', ';'], [0x2266]),
  (['l', 'e', 'q', 's', 'l', 'a', 'n', 't', ';'], [0x2A7D]),
  (['l', 'e', 's', ';'], [0x2A7D]),
  (['l', 'e', 's', 'c', 'c', ';'], [0x2AA8]),
  (['l', 'e', 's', 'd', 'o', 't', ';'], [0x2A7F]),
  (['l', 'e', 's', 'd', 'o', 't', 'o', ';'], [0x2A81]),
  (['l', 'e', 's', 'd', 'o', 't', 'o', 'r', ';'], [0x2A83]),
  (['l', 'e', 's', 'g', ';'], [0x22DA, 0xFE00]),
  (['l', 'e', 's', 'g', 'e', 's', ';'], [0x2A93]),
  (['l', 'e', 's', 's', 'a', 'p', 'p', 'r', 'o', 'x', ';'], [0x2A85]),
  (['l', 'e', 's', 's', 'd', 'o', 't', ';'], [0x22D6]),
  (['l', 'e', 's', 's', 'e', 'q', 'g', 't', 'r', ';'], [0x22DA]),
  (['l', 'e', 's', 's', 'e', 'q', 'q', 'g', 't', 'r', ';'], [0x2A8B]),
  (['l', 'e', 's', 's', 'g', 't', 'r', ';'], [0x2276]),
  (['l', 'e', 's', 's', 's', 'i', 'm', ';'], [0x2272]),
  (['l', 'f', 'i', 's', 'h', 't', ';'], [0x297C]),
  (['l', 'f', 'l', 'o', 'o', 'r', ';'], [0x230A]),
  (['l', 'f', 'r', ';'], [0x1D529]),
  (['l', 'g', ';'], [0x2276]),
  (['l', 'g', 'E', ';'], [0x2A91]),
  (['l', 'h', 'a', 'r', 'd', ';'], [0x21BD]),
  (['l', 'h', 'a', 'r', 'u', ';'], [0x21BC]),
  (['l', 'h', 'a', 'r', 'u', 'l', ';'], [0x296A]),
  (['l', 'h', 'b', 'l', 'k', ';'], [0x2584]),
  (['l', 'j', 'c', 'y', ';'], [0x459]),
  (['l', 'l', ';'], [0x226A]),
  (['l', 'l', 'a', 'r', 'r', ';'], [0x21C7]),
  (['l', 'l', 'c', 'o', 'r', 'n', 'e', 'r', ';'], [0x231E]),
  (['l', 'l', 'h', 'a', 'r', 'd', ';'], [0x296B]),
  (['l', 'l', 't', 'r', 'i', ';'], [0x25FA]),
  (['l', 'm', 'i', 'd', 'o', 't', ';'], [0x140]),
  (['l', 'm', 'o', 'u', 's', 't', ';'], [0x23B0]),
  (['l', 'm', 'o', 'u', 's', 't', 'a', 'c', 'h', 'e', ';'], [0x23B0]),
  (['l', 'n', 'E', ';'], [0x2268]),
  (['l', 'n', 'a', 'p', ';'], [0x2A89]),
  (['l', 'n', 'a', 'p', 'p', 'r', 'o', 'x', ';'], [0x2A89]),
  (['l', 'n', 'e', ';'], [0x2A87]),
  (['l', 'n', 'e', 'q', ';'], [0x2A87]),
  (['l', 'n', 'e', 'q', 'q', ';'], [0x2268]),
  (['l', 'n', 's', 'i', 'm', ';'], [0x22E6]),
  (['l', 'o', 'a', 'n', 'g', ';'], [0x27EC]),
  (['l', 'o', 'a', 'r', 'r', ';'], [0x21FD]),
  (['l', 'o', 'b', 'r', 'k', ';'], [0x27E6]),
  (['l', 'o', 'n', 'g', 'l', 'e', 'f', 't', 'a', 'r', 'r', 'o', 'w', ';'], [0x27F5]),
  (['l', 'o', 'n', 'g', 'l', 'e', 'f', 't', 'r', 'i', 'g', 'h', 't', 'a', 'r', 'r', 'o', 'w',
    ';'], [0x27F7]),
  (['l', 'o', 'n', 'g', 'm', 'a', 'p', 's', 't', 'o', ';'], [0x27FC]),
  (['l', 'o', 'n', 'g', 'r', 'i', 'g', 'h', 't', 'a', 'r', 'r', 'o', 'w', ';'], [0x27F6]),
  (['l', 'o', 'o', 'p', 'a', 'r', 'r', 'o', 'w', 'l', 'e', 'f', 't', ';'], [0x21AB]),
  (['l', 'o', 'o', 'p', 'a', 'r', 'r', 'o', 'w', 'r', 'i', 'g', 'h', 't', ';'], [0x21AC]),
  (['l', 'o', 'p', 'a', 'r', ';'], [0x2985]),
  (['l', 'o', 'p', 'f', ';'], [0x1D55D]),
  (['l', 'o', 'p', 'l', 'u', 's', ';'], [0x2A2D]),
  (['l', 'o', 't', 'i', 'm', 'e', 's', ';'], [0x2A34]),
  (['l', 'o', 'w', 'a', 's', 't', ';'], [0x2217]),
  (['l', 'o', 'w', 'b', 'a', 'r', ';'], [0x5F]),
  (['l', 'o', 'z', ';'], [0x25CA]),
  (['l', 'o', 'z', 'e', 'n', 'g', 'e', ';'], [0x25CA]),
  (['l', 'o', 'z', 'f', ';'], [0x29EB]),
  (['l', 'p', 'a', 'r', ';'], [0x28]),
  (['l', 'p', 'a', 'r', 'l', 't', ';'], [0x2993]),
  (['l', 'r', 'a', 'r', 'r', ';'], [0x21C6]),
  (['l', 'r', 'c', 'o', 'r', 'n', 'e', 'r', ';'], [0x231F]),
  (['l', 'r', 'h', 'a', 'r', ';'], [0x21CB]),
  (['l', 'r', 'h', 'a', 'r', 'd', ';'], [0x296D]),
  (['l', 'r', 'm', ';'], [0x200E]),
  (['l', 'r', 't', 'r', 'i', ';'], [0x22BF]),
  (['l', 's', 'a', 'q', 'u', 'o', ';'], [0x2039]),
  (['l', 's', 'c', 'r', ';'], [0x1D4C1]),
  (['l', 's', 'h', ';'], [0x21B0]),
  (['l', 's', 'i', 'm', ';'], [0x2272]),
  (['l', 's', 'i', 'm', 'e', ';'], [0x2A8D]),
  (['l', 's', 'i', 'm', 'g', ';'], [0x2A8F]),
  (['l', 's', 'q', 'b', ';'], [0x5B]),
  (['l', 's', 'q', 'u', 'o', ';'], [0x2018]),
  (['l', 's', 'q', 'u', 'o', 'r', ';'], [0x201A]),
  (['l', 's', 't', 'r', 'o', 'k', ';'], [0x142]),
  (['l', 't'], [0x3C]),
  (['l', 't', ';'], [0x3C]),
  (['l', 't', 'c', 'c', ';'], [0x2AA6]),
  (['l', 't', 'c', 'i', 'r', ';'], [0x2A79]),
  (['l', 't', 'd', 'o', 't', ';'], [0x22D6]),
  (['l', 't', 'h', 'r', 'e', 'e', ';'], [0x22CB]),
  (['l', 't', 'i', 'm', 'e', 's', ';'], [0x22C9]),
  (['l', 't', 'l', 'a', 'r', 'r', ';'], [0x2976]),
  (['l', 't', 'q', 'u', 'e', 's', 't', ';'], [0x2A7B]),
  (['l', 't', 'r', 'P', 'a', 'r', ';'], [0x2996]),
  (['l', 't', 'r', 'i', ';'], [0x25C3]),
  (['l', 't', 'r', 'i', 'e', ';'], [0x22B4]),
  (['l', 't', 'r', 'i', 'f', ';'], [0x25C2]),
  (['l', 'u', 'r', 'd', 's', 'h', 'a', 'r', ';'], [0x294A]),
  (['l', 'u', 'r', 'u', 'h', 'a', 'r', ';'], [0x2966]),
  (['l', 'v', 'e', 'r', 't', 'n', 'e', 'q', 'q', ';'], [0x2268, 0xFE00]),
  (['l', 'v', 'n', 'E', ';'], [0x2268, 0xFE00])]

/-- The names that start with `m`. -/
def smallM : List (List Char × Text) := [
  (['m', 'D', 'D', 'o', 't', ';'], [0x223A]),
  (['m', 'a', 'c', 'r'], [0xAF]),
  (['m', 'a', 'c', 'r', ';'], [0xAF]),
  (['m', 'a', 'l', 'e', ';'], [0x2642]),
  (['m', 'a', 'l', 't', ';'], [0x2720]),
  (['m', 'a', 'l', 't', 'e', 's', 'e', ';'], [0x2720]),
  (['m', 'a', 'p', ';'], [0x21A6]),
  (['m', 'a', 'p', 's', 't', 'o', ';'], [0x21A6]),
  (['m', 'a', 'p', 's', 't', 'o', 'd', 'o', 'w', 'n', ';'], [0x21A7]),
  (['m', 'a', 'p', 's', 't', 'o', 'l', 'e', 'f', 't', ';'], [0x21A4]),
  (['m', 'a', 'p', 's', 't', 'o', 'u', 'p', ';'], [0x21A5]),
  (['m', 'a', 'r', 'k', 'e', 'r', ';'], [0x25AE]),
  (['m', 'c', 'o', 'm', 'm', 'a', ';'], [0x2A29]),
  (['m', 'c', 'y', ';'], [0x43C]),
  (['m', 'd', 'a', 's', 'h', ';'], [0x2014]),
  (['m', 'e', 'a', 's', 'u', 'r', 'e', 'd', 'a', 'n', 'g', 'l', 'e', ';'], [0x2221]),
  (['m', 'f', 'r', ';'], [0x1D52A]),
  (['m', 'h', 'o', ';'], [0x2127]),
  (['m', 'i', 'c', 'r', 'o'], [0xB5]),
  (['m', 'i', 'c', 'r', 'o', ';'], [0xB5]),
  (['m', 'i', 'd', ';'], [0x2223]),
  (['m', 'i', 'd', 'a', 's', 't', ';'], [0x2A]),
  (['m', 'i', 'd', 'c', 'i', 'r', ';'], [0x2AF0]),
  (['m', 'i', 'd', 'd', 'o', 't'], [0xB7]),
  (['m', 'i', 'd', 'd', 'o', 't', ';'], [0xB7]),
  (['m', 'i', 'n', 'u', 's', ';'], [0x2212]),
  (['m', 'i', 'n', 'u', 's', 'b', ';'], [0x229F]),
  (['m', 'i', 'n', 'u', 's', 'd', ';'], [0x2238]),
  (['m', 'i', 'n', 'u', 's', 'd', 'u', ';'], [0x2A2A]),
  (['m', 'l', 'c', 'p', ';'], [0x2ADB]),
  (['m', 'l', 'd', 'r', ';'], [0x2026]),
  (['m', 'n', 'p', 'l', 'u', 's', ';'], [0x2213]),
  (['m', 'o', 'd', 'e', 'l', 's', ';'], [0x22A7]),
  (['m', 'o', 'p', 'f', ';'], [0x1D55E]),
  (['m', 'p', ';'], [0x2213]),
  (['m', 's', 'c', 'r', ';'], [0x1D4C2]),
  (['m', 's', 't', 'p', 'o', 's', ';'], [0x223E]),
  (['m', 'u', ';'], [0x3BC]),
  (['m', 'u', 'l', 't', 'i', 'm', 'a', 'p', ';'], [0x22B8]),
  (['m', 'u', 'm', 'a', 'p', ';'], [0x22B8])]

/-- The names that start with `n`. -/
def smallN : List (List Char × Text) := [
  (['n', 'G', 'g', ';'], [0x22D9, 0x338]),
  (['n', 'G', 't', ';'], [0x226B, 0x20D2]),
  (['n', 'G', 't', 'v', ';'], [0x226B, 0x338]),
  (['n', 'L', 'e', 'f', 't', 'a', 'r', 'r', 'o', 'w', ';'], [0x21CD]),
  (['n', 'L', 'e', 'f', 't', 'r', 'i', 'g', 'h', 't', 'a', 'r', 'r', 'o', 'w', ';'], [0x21CE]),
  (['n', 'L', 'l', ';'], [0x22D8, 0x338]),
  (['n', 'L', 't', ';'], [0x226A, 0x20D2]),
  (['n', 'L', 't', 'v', ';'], [0x226A, 0x338]),
  (['n', 'R', 'i', 'g', 'h', 't', 'a', 'r', 'r', 'o', 'w', ';'], [0x21CF]),
  (['n', 'V', 'D', 'a', 's', 'h', ';'], [0x22AF]),
  (['n', 'V', 'd', 'a', 's', 'h', ';'], [0x22AE]),
  (['n', 'a', 'b', 'l', 'a', ';'], [0x2207]),
  (['n', 'a', 'c', 'u', 't', 'e', ';'], [0x144]),
  (['n', 'a', 'n', 'g', ';'], [0x2220, 0x20D2]),
  (['n', 'a', 'p', ';'], [0x2249]),
  (['n', 'a', 'p', 'E', ';'], [0x2A70, 0x338]),
  (['n', 'a', 'p', 'i', 'd', ';'], [0x224B, 0x338]),
  (['n', 'a', 'p', 'o', 's', ';'], [0x149]),
  (['n', 'a', 'p', 'p', 'r', 'o', 'x', ';'], [0x2249]),
  (['n', 'a', 't', 'u', 'r', ';'], [0x266E]),
  (['n', 'a', 't', 'u', 'r', 'a', 'l', ';'], [0x266E]),
  (['n', 'a', 't', 'u', 'r', 'a', 'l', 's', ';'], [0x2115]),
  (['n', 'b', 's', 'p'], [0xA0]),
  (['n', 'b', 's', 'p', ';'], [0xA0]),
  (['n', 'b', 'u', 'm', 'p', ';'], [0x224E, 0x338]),
  (['n', 'b', 'u', 'm', 'p', 'e', ';'], [0x224F, 0x338]),
  (['n', 'c', 'a', 'p', ';'], [0x2A43]),
  (['n', 'c', 'a', 'r', 'o', 'n', ';'], [0x148]),
  (['n', 'c', 'e', 'd', 'i', 'l', ';'], [0x146]),
  (['n', 'c', 'o', 'n', 'g', ';'], [0x2247]),
  (['n', 'c', 'o', 'n', 'g', 'd', 'o', 't', ';'], [0x2A6D, 0x338]),
  (['n', 'c', 'u', 'p', ';'], [0x2A42]),
  (['n', 'c', 'y', ';'], [0x43D]),
  (['n', 'd', 'a', 's', 'h', ';'], [0x2013]),
  (['n', 'e', ';'], [0x2260]),
  (['n', 'e', 'A', 'r', 'r', ';'], [0x21D7]),
  (['n', 'e', 'a', 'r', 'h', 'k', ';'], [0x2924]),
  (['n', 'e', 'a', 'r', 'r', ';'], [0x2197]),
  (['n', 'e', 'a', 'r', 'r', 'o', 'w', ';'], [0x2197]),
  (['n', 'e', 'd', 'o', 't', ';'], [0x2250, 0x338]),
  (['n', 'e', 'q', 'u', 'i', 'v', ';'], [0x2262]),
  (['n', 'e', 's', 'e', 'a', 'r', ';'], [0x2928]),
  (['n', 'e', 's', 'i', 'm', ';'], [0x2242, 0x338]),
  (['n', 'e', 'x', 'i', 's', 't', ';'], [0x2204]),
  (['n', 'e', 'x', 'i', 's', 't', 's', ';'], [0x2204]),
  (['n', 'f', 'r', ';'], [0x1D52B]),
  (['n', 'g', 'E', ';'], [0x2267, 0x338]),
  (['n', 'g', 'e', ';'], [0x2271]),
  (['n', 'g', 'e', 'q', ';'], [0x2271]),
  (['n', 'g', 'e', 'q', 'q', ';'], [0x2267, 0x338]),
  (['n', 'g', 'e', 'q', 's', 'l', 'a', 'n', 't', ';'], [0x2A7E, 0x338]),
  (['n', 'g', 'e', 's', ';'], [0x2A7E, 0x338]),
  (['n', 'g', 's', 'i', 'm', ';'], [0x2275]),
  (['n', 'g', 't', ';'], [0x226F]),
  (['n', 'g', 't', 'r', ';'], [0x226F]),
  (['n', 'h', 'A', 'r', 'r', ';'], [0x21CE]),
  (['n', 'h', 'a', 'r', 'r', ';'], [0x21AE]),
  (['n', 'h', 'p', 'a', 'r', ';'], [0x2AF2]),
  (['n', 'i', ';'], [0x220B]),
  (['n', 'i', 's', ';'], [0x22FC]),
  (['n', 'i', 's', 'd', ';'], [0x22FA]),
  (['n', 'i', 'v', ';'], [0x220B]),
  (['n', 'j', 'c', 'y', ';'], [0x45A]),
  (['n', 'l', 'A', 'r', 'r', ';'], [0x21CD]),
  (['n', 'l', 'E', ';'], [0x2266, 0x338]),
  (['n', 'l', 'a', 'r', 'r', ';'], [0x219A]),
  (['n', 'l', 'd', 'r', ';'], [0x2025]),
  (['n', 'l', 'e', ';'], [0x2270]),
  (['n', 'l', 'e', 'f', 't', 'a', 'r', 'r', 'o', 'w', ';'], [0x219A]),
  (['n', 'l', 'e', 'f', 't', 'r', 'i', 'g', 'h', 't', 'a', 'r', 'r', 'o', 'w', ';'], [0x21AE]),
  (['n', 'l', 'e', 'q', ';'], [0x2270]),
  (['n', 'l', 'e', 'q', 'q', ';'], [0x2266, 0x338]),
  (['n', 'l', 'e', 'q', 's', 'l', 'a', 'n', 't', ';'], [0x2A7D, 0x338]),
  (['n', 'l', 'e', 's', ';'], [0x2A7D, 0x338]),
  (['n', 'l', 'e', 's', 's', ';'], [0x226E]),
  (['n', 'l', 's', 'i', 'm', ';'], [0x2274]),
  (['n', 'l', 't', ';'], [0x226E]),
  (['n', 'l', 't', 'r', 'i', ';'], [0x22EA]),
  (['n', 'l', 't', 'r', 'i', 'e', ';'], [0x22EC]),
  (['n', 'm', 'i', 'd', ';'], [0x2224]),
  (['n', 'o', 'p', 'f', ';'], [0x1D55F]),
  (['n', 'o', 't'], [0xAC]),
  (['n', 'o', 't', ';'], [0xAC]),
  (['n', 'o', 't', 'i', 'n', ';'], [0x2209]),
  (['n', 'o', 't', 'i', 'n', 'E', ';'], [0x22F9, 0x338]),
  (['n', 'o', 't', 'i', 'n', 'd', 'o', 't', ';'], [0x22F5, 0x338]),
  (['n', 'o', 't', 'i', 'n', 'v', 'a', ';'], [0x2209]),
  (['n', 'o', 't', 'i', 'n', 'v', 'b', ';'], [0x22F7]),
  (['n', 'o', 't', 'i', 'n', 'v', 'c', ';'], [0x22F6]),
  (['n', 'o', 't', 'n', 'i', ';'], [0x220C]),
  (['n', 'o', 't', 'n', 'i', 'v', 'a', ';'], [0x220C]),
  (['n', 'o', 't', 'n', 'i', 'v', 'b', ';'], [0x22FE]),
  (['n', 'o', 't', 'n', 'i', 'v', 'c', ';'], [0x22FD]),
  (['n', 'p', 'a', 'r', ';'], [0x2226]),
  (['n', 'p', 'a', 'r', 'a', 'l', 'l', 'e', 'l', ';'], [0x2226]),
  (['n', 'p', 'a', 'r', 's', 'l', ';'], [0x2AFD, 0x20E5]),
  (['n', 'p', 'a', 'r', 't', ';'], [0x2202, 0x338]),
  (['n', 'p', 'o', 'l', 'i', 'n', 't', ';'], [0x2A14]),
  (['n', 'p', 'r', ';'], [0x2280]),
  (['n', 'p', 'r', 'c', 'u', 'e', ';'], [0x22E0]),
  (['n', 'p', 'r', 'e', ';'], [0x2AAF, 0x338]),
  (['n', 'p', 'r', 'e', 'c', ';'], [0x2280]),
  (['n', 'p', 'r', 'e', 'c', 'e', 'q', ';'], [0x2AAF, 0x338]),
  (['n', 'r', 'A', 'r', 'r', ';'], [0x21CF]),
  (['n', 'r', 'a', 'r', 'r', ';'], [0x219B]),
  (['n', 'r', 'a', 'r', 'r', 'c', ';'], [0x2933, 0x338]),
  (['n', 'r', 'a', 'r', 'r', 'w', ';'], [0x219D, 0x338]),
  (['n', 'r', 'i', 'g', 'h', 't', 'a', 'r', 'r', 'o', 'w', ';'], [0x219B]),
  (['n', 'r', 't', 'r', 'i', ';'], [0x22EB]),
  (['n', 'r', 't', 'r', 'i', 'e', ';'], [0x22ED]),
  (['n', 's', 'c', ';'], [0x2281]),
  (['n', 's', 'c', 'c', 'u', 'e', ';'], [0x22E1]),
  (['n', 's', 'c', 'e', ';'], [0x2AB0, 0x338]),
  (['n', 's', 'c', 'r', ';'], [0x1D4C3]),
  (['n', 's', 'h', 'o', 'r', 't', 'm', 'i', 'd', ';'], [0x2224]),
  (['n', 's', 'h', 'o', 'r', 't', 'p', 'a', 'r', 'a', 'l', 'l', 'e', 'l', ';'], [0x2226]),
  (['n', 's', 'i', 'm', ';'], [0x2241]),
  (['n', 's', 'i', 'm', 'e', ';'], [0x2244]),
  (['n', 's', 'i', 'm', 'e', 'q', ';'], [0x2244]),
  (['n', 's', 'm', 'i', 'd', ';'], [0x2224]),
  (['n', 's', 'p', 'a', 'r', ';'], [0x2226]),
  (['n', 's', 'q', 's', 'u', 'b', 'e', ';'], [0x22E2]),
  (['n', 's', 'q', 's', 'u', 'p', 'e', ';'], [0x22E3]),
  (['n', 's', 'u', 'b', ';'], [0x2284]),
  (['n', 's', 'u', 'b', 'E', ';'], [0x2AC5, 0x338]),
  (['n', 's', 'u', 'b', 'e', ';'], [0x2288]),
  (['n', 's', 'u', 'b', 's', 'e', 't', ';'], [0x2282, 0x20D2]),
  (['n', 's', 'u', 'b', 's', 'e', 't', 'e', 'q', ';'], [0x2288]),
  (['n', 's', 'u', 'b', 's', 'e', 't', 'e', 'q', 'q', ';'], [0x2AC5, 0x338]),
  (['n', 's', 'u', 'c', 'c', ';'], [0x2281]),
  (['n', 's', 'u', 'c', 'c', 'e', 'q', ';'], [0x2AB0, 0x338]),
  (['n', 's', 'u', 'p', ';'], [0x2285]),
  (['n', 's', 'u', 'p', 'E', ';'], [0x2AC6, 0x338]),
  (['n', 's', 'u', 'p', 'e', ';'], [0x2289]),
  (['n', 's', 'u', 'p', 's', 'e', 't', ';'], [0x2283, 0x20D2]),
  (['n', 's', 'u', 'p', 's', 'e', 't', 'e', 'q', ';'], [0x2289]),
  (['n', 's', 'u', 'p', 's', 'e', 't', 'e', 'q', 'q', ';'], [0x2AC6, 0x338]),
  (['n', 't', 'g', 'l', ';'], [0x2279]),
  (['n', 't', 'i', 'l', 'd', 'e'], [0xF1]),
  (['n', 't', 'i', 'l', 'd', 'e', ';'], [0xF1]),
  (['n', 't', 'l', 'g', ';'], [0x2278]),
  (['n', 't', 'r', 'i', 'a', 'n', 'g', 'l', 'e', 'l', 'e', 'f', 't', ';'], [0x22EA]),
  (['n', 't', 'r', 'i', 'a', 'n', 'g', 'l', 'e', 'l', 'e', 'f', 't', 'e', 'q', ';'], [0x22EC]),
  (['n', 't', 'r', 'i', 'a', 'n', 'g', 'l', 'e', 'r', 'i', 'g', 'h', 't', ';'], [0x22EB]),
  (['n', 't', 'r', 'i', 'a', 'n', 'g', 'l', 'e', 'r', 'i', 'g', 'h', 't', 'e', 'q', ';'],
    [0x22ED]),
  (['n', 'u', ';'], [0x3BD]),
  (['n', 'u', 'm', ';'], [0x23]),
  (['n', 'u', 'm', 'e', 'r', 'o', ';'], [0x2116]),
  (['n', 'u', 'm', 's', 'p', ';'], [0x2007]),
  (['n', 'v', 'D', 'a', 's', 'h', ';'], [0x22AD]),
  (['n', 'v', 'H', 'a', 'r', 'r', ';'], [0x2904]),
  (['n', 'v', 'a', 'p', ';'], [0x224D, 0x20D2]),
  (['n', 'v', 'd', 'a', 's', 'h', ';'], [0x22AC]),
  (['n', 'v', 'g', 'e', ';'], [0x2265, 0x20D2]),
  (['n', 'v', 'g', 't', ';'], [0x3E, 0x20D2]),
  (['n', 'v', 'i', 'n', 'f', 'i', 'n', ';'], [0x29DE]),
  (['n', 'v', 'l', 'A', 'r', 'r', ';'], [0x2902]),
  (['n', 'v', 'l', 'e', ';'], [0x2264, 0x20D2]),
  (['n', 'v', 'l', 't', ';'], [0x3C, 0x20D2]),
  (['n', 'v', 'l', 't', 'r', 'i', 'e', ';'], [0x22B4, 0x20D2]),
  (['n', 'v', 'r', 'A', 'r', 'r', ';'], [0x2903]),
  (['n', 'v', 'r', 't', 'r', 'i', 'e', ';'], [0x22B5, 0x20D2]),
  (['n', 'v', 's', 'i', 'm', ';'], [0x223C, 0x20D2]),
  (['n', 'w', 'A', 'r', 'r', ';'], [0x21D6]),
  (['n', 'w', 'a', 'r', 'h', 'k', ';'], [0x2923]),
  (['n', 'w', 'a', 'r', 'r', ';'], [0x2196]),
  (['n', 'w', 'a', 'r', 'r', 'o', 'w', ';'], [0x2196]),
  (['n', 'w', 'n', 'e', 'a', 'r', ';'], [0x2927])]

/-- The names that start with `o`. -/
def smallO : List (List Char × Text) := [
  (['o', 'S', ';'], [0x24C8]),
  (['o', 'a', 'c', 'u', 't', 'e'], [0xF3]),
  (['o', 'a', 'c', 'u', 't', 'e', ';'], [0xF3]),
  (['o', 'a', 's', 't', ';'], [0x229B]),
  (['o', 'c', 'i', 'r', ';'], [0x229A]),
  (['o', 'c', 'i', 'r', 'c'], [0xF4]),
  (['o', 'c', 'i', 'r', 'c', ';'], [0xF4]),
  (['o', 'c', 'y', ';'], [0x43E]),
  (['o', 'd', 'a', 's', 'h', ';'], [0x229D]),
  (['o', 'd', 'b', 'l', 'a', 'c', ';'], [0x151]),
  (['o', 'd', 'i', 'v', ';'], [0x2A38]),
  (['o', 'd', 'o', 't', ';'], [0x2299]),
  (['o', 'd', 's', 'o', 'l', 'd', ';'], [0x29BC]),
  (['o', 'e', 'l', 'i', 'g', ';'], [0x153]),
  (['o', 'f', 'c', 'i', 'r', ';'], [0x29BF]),
  (['o', 'f', 'r', ';'], [0x1D52C]),
  (['o', 'g', 'o', 'n', ';'], [0x2DB]),
  (['o', 'g', 'r', 'a', 'v', 'e'], [0xF2]),
  (['o', 'g', 'r', 'a', 'v', 'e', ';'], [0xF2]),
  (['o', 'g', 't', ';'], [0x29C1]),
  (['o', 'h', 'b', 'a', 'r', ';'], [0x29B5]),
  (['o', 'h', 'm', ';'], [0x3A9]),
  (['o', 'i', 'n', 't', ';'], [0x222E]),
  (['o', 'l', 'a', 'r', 'r', ';'], [0x21BA]),
  (['o', 'l', 'c', 'i', 'r', ';'], [0x29BE]),
  (['o', 'l', 'c', 'r', 'o', 's', 's', ';'], [0x29BB]),
  (['o', 'l', 'i', 'n', 'e', ';'], [0x203E]),
  (['o', 'l', 't', ';'], [0x29C0]),
  (['o', 'm', 'a', 'c', 'r', ';'], [0x14D]),
  (['o', 'm', 'e', 'g', 'a', ';'], [0x3C9]),
  (['o', 'm', 'i', 'c', 'r', 'o', 'n', ';'], [0x3BF]),
  (['o', 'm', 'i', 'd', ';'], [0x29B6]),
  (['o', 'm', 'i', 'n', 'u', 's', ';'], [0x2296]),
  (['o', 'o', 'p', 'f', ';'], [0x1D560]),
  (['o', 'p', 'a', 'r', ';'], [0x29B7]),
  (['o', 'p', 'e', 'r', 'p', ';'], [0x29B9]),
  (['o', 'p', 'l', 'u', 's', ';'], [0x2295]),
  (['o', 'r', ';'], [0x2228]),
  (['o', 'r', 'a', 'r', 'r', ';'], [0x21BB]),
  (['o', 'r', 'd', ';'], [0x2A5D]),
  (['o', 'r', 'd', 'e', 'r', ';'], [0x2134]),
  (['o', 'r', 'd', 'e', 'r', 'o', 'f', ';'], [0x2134]),
  (['o', 'r', 'd', 'f'], [0xAA]),
  (['o', 'r', 'd', 'f', ';'], [0xAA]),
  (['o', 'r', 'd', 'm'], [0xBA]),
  (['o', 'r', 'd', 'm', ';'], [0xBA]),
  (['o', 'r', 'i', 'g', 'o', 'f', ';'], [0x22B6]),
  (['o', 'r', 'o', 'r', ';'], [0x2A56]),
  (['o', 'r', 's', 'l', 'o', 'p', 'e', ';'], [0x2A57]),
  (['o', 'r', 'v', ';'], [0x2A5B]),
  (['o', 's', 'c', 'r', ';'], [0x2134]),
  (['o', 's', 'l', 'a', 's', 'h'], [0xF8]),
  (['o', 's', 'l', 'a', 's', 'h', ';'], [0xF8]),
  (['o', 's', 'o', 'l', ';'], [0x2298]),
  (['o', 't', 'i', 'l', 'd', 'e'], [0xF5]),
  (['o', 't', 'i', 'l', 'd', 'e', ';'], [0xF5]),
  (['o', 't', 'i', 'm', 'e', 's', ';'], [0x2297]),
  (['o', 't', 'i', 'm', 'e', 's', 'a', 's', ';'], [0x2A36]),
  (['o', 'u', 'm', 'l'], [0xF6]),
  (['o', 'u', 'm', 'l', ';'], [0xF6]),
  (['o', 'v', 'b', 'a', 'r', ';'], [0x233D])]

/-- All names that start with `i` to `o`. -/
def iToONames : List (List Char × Text) :=
  smallI ++ smallJ ++ smallK ++ smallL ++ smallM ++ smallN ++ smallO

end TokenConformance.Reference
