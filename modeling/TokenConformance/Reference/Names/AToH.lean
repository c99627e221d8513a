import TokenConformance.Text.CodePoint

/-!
# Reference names — those that start with `a` to `h`

Each name as it is written behind the ampersand, with its semicolon where it has one, and the code
points it stands for.  Names are spelled out letter by letter, so that statements about all of
them can be settled by evaluation.
-/

namespace TokenConformance.Reference

/-- The names that start with `a`. -/
def smallA : List (List Char × Text) := [
  (['a', 'a', 'c', 'u', 't', 'e'], [0xE1]),
  (['a', 'a', 'c', 'u', 't', 'e', ';'], [0xE1]),
  (['a', 'b', 'r', 'e', 'v', 'e', ';'], [0x103]),
  (['a', 'c', ';'], [0x223E]),
  (['a', 'c', 'E', ';'], [0x223E, 0x333]),
  (['a', 'c', 'd', ';'], [0x223F]),
  (['a', 'c', 'i', 'r', 'c'], [0xE2]),
  (['a', 'c', 'i', 'r', 'c', ';'], [0xE2]),
  (['a', 'c', 'u', 't', 'e'], [0xB4]),
  (['a', 'c', 'u', 't', 'e', ';'], [0xB4]),
  (['a', 'c', 'y', ';'], [0x430]),
  (['a', 'e', 'l', 'i', 'g'], [0xE6]),
  (['a', 'e', 'l', 'i', 'g', ';'], [0xE6]),
  (['a', 'f', ';'], [0x2061]),
  (['a', 'f', 'r', ';'], [0x1D51E]),
  (['a', 'g', 'r', 'a', 'v', 'e'], [0xE0]),
  (['a', 'g', 'r', 'a', 'v', 'e', ';'], [0xE0]),
  (['a', 'l', 'e', 'f', 's', 'y', 'm', ';'], [0x2135]),
  (['a', 'l', 'e', 'p', 'h', ';'], [0x2135]),
  (['a', 'l', 'p', 'h', 'a', ';'], [0x3B1]),
  (['a', 'm', 'a', 'c', 'r', ';'], [0x101]),
  (['a', 'm', 'a', 'l', 'g', ';'], [0x2A3F]),
  (['a', 'm', 'p'], [0x26]),
  (['a', 'm', 'p', ';'], [0x26]),
  (['a', 'n', 'd', ';'], [0x2227]),
  (['a', 'n', 'd', 'a', 'n', 'd', ';'], [0x2A55]),
  (['a', 'n', 'd', 'd', ';'], [0x2A5C]),
  (['a', 'n', 'd', 's', 'l', 'o', 'p', 'e', ';'], [0x2A58]),
  (['a', 'n', 'd', 'v', ';'], [0x2A5A]),
  (['a', 'n', 'g', ';'], [0x2220]),
  (['a', 'n', 'g', 'e', ';'], [0x29A4]),
  (['a', 'n', 'g', 'l', 'e', ';'], [0x2220]),
  (['a', 'n', 'g', 'm', 's', 'd', ';'], [0x2221]),
  (['a', 'n', 'g', 'm', 's', 'd', 'a', 'a', ';'], [0x29A8]),
  (['a', 'n', 'g', 'm', 's', 'd', 'a', 'b', ';'], [0x29A9]),
  (['a', 'n', 'g', 'm', 's', 'd', 'a', 'c', ';'], [0x29AA]),
  (['a', 'n', 'g', 'm', 's', 'd', 'a', 'd', ';'], [0x29AB]),
  (['a', 'n', 'g', 'm', 's', 'd', 'a', 'e', ';'], [0x29AC]),
  (['a', 'n', 'g', 'm', 's', 'd', 'a', 'f', ';'], [0x29AD]),
  (['a', 'n', 'g', 'm', 's', 'd', 'a', 'g', ';'], [0x29AE]),
  (['a', 'n', 'g', 'm', 's', 'd', 'a', 'h', ';'], [0x29AF]),
  (['a', 'n', 'g', 'r', 't', ';'], [0x221F]),
  (['a', 'n', 'g', 'r', 't', 'v', 'b', ';'], [0x22BE]),
  (['a', 'n', 'g', 'r', 't', 'v', 'b', 'd', ';'], [0x299D]),
  (['a', 'n', 'g', 's', 'p', 'h', ';'], [0x2222]),
  (['a', 'n', 'g', 's', 't', ';'], [0xC5]),
  (['a', 'n', 'g', 'z', 'a', 'r', 'r', ';'], [0x237C]),
  (['a', 'o', 'g', 'o', 'n', ';'], [0x105]),
  (['a', 'o', 'p', 'f', ';'], [0x1D552]),
  (['a', 'p', ';'], [0x2248]),
  (['a', 'p', 'E', ';'], [0x2A70]),
  (['a', 'p', 'a', 'c', 'i', 'r', ';'], [0x2A6F]),
  (['a', 'p', 'e', ';'], [0x224A]),
  (['a', 'p', 'i', 'd', ';'], [0x224B]),
  (['a', 'p', 'o', 's', ';'], [0x27]),
  (['a', 'p', 'p', 'r', 'o', 'x', ';'], [0x2248]),
  (['a', 'p', 'p', 'r', 'o', 'x', 'e', 'q', ';'], [0x224A]),
  (['a', 'r', 'i', 'n', 'g'], [0xE5]),
  (['a', 'r', 'i', 'n', 'g', ';'], [0xE5]),
  (['a', 's', 'c', 'r', ';'], [0x1D4B6]),
  (['a', 's', 't', ';'], [0x2A]),
  (['a', 's', 'y', 'm', 'p', ';'], [0x2248]),
  (['a', 's', 'y', 'm', 'p', 'e', 'q', ';'], [0x224D]),
  (['a', 't', 'i', 'l', 'd', 'e'], [0xE3]),
  (['a', 't', 'i', 'l', 'd', 'e', ';'], [0xE3]),
  (['a', 'u', 'm', 'l'], [0xE4]),
  (['a', 'u', 'm', 'l', ';'], [0xE4]),
  (['a', 'w', 'c', 'o', 'n', 'i', 'n', 't', ';'], [0x2233]),
  (['a', 'w', 'i', 'n', 't', ';'], [0x2A11])]

/-- The names that start with `b`. -/
def smallB : List (List Char × Text) := [
  (['b', 'N', 'o', 't', ';'], [0x2AED]),
  (['b', 'a', 'c', 'k', 'c', 'o', 'n', 'g', ';'], [0x224C]),
  (['b', 'a', 'c', 'k', 'e', 'p', 's', 'i', 'l', 'o', 'n', ';'], [0x3F6]),
  (['b', 'a', 'c', 'k', 'p', 'r', 'i', 'm', 'e', ';'], [0x2035]),
  (['b', 'a', 'c', 'k', 's', 'i', 'm', ';'], [0x223D]),
  (['b', 'a', 'c', 'k', 's', 'i', 'm', 'e', 'q', ';'], [0x22CD]),
  (['b', 'a', 'r', 'v', 'e', 'e', ';'], [0x22BD]),
  (['b', 'a', 'r', 'w', 'e', 'd', ';'], [0x2305]),
  (['b', 'a', 'r', 'w', 'e', 'd', 'g', 'e', ';'], [0x2305]),
  (['b', 'b', 'r', 'k', ';'], [0x23B5]),
  (['b', 'b', 'r', 'k', 't', 'b', 'r', 'k', ';'], [0x23B6]),
  (['b', 'c', 'o', 'n', 'g', ';'], [0x224C]),
  (['b', 'c', 'y', ';'], [0x431]),
  (['b', 'd', 'q', 'u', 'o', ';'], [0x201E]),
  (['b', 'e', 'c', 'a', 'u', 's', ';'], [0x2235]),
  (['b', 'e', 'c', 'a', 'u', 's', 'e', ';'], [0x2235]),
  (['b', 'e', 'm', 'p', 't', 'y', 'v', ';'], [0x29B0]),
  (['b', 'e', 'p', 's', 'i', ';'], [0x3F6]),
  (['b', 'e', 'r', 'n', 'o', 'u', ';'], [0x212C]),
  (['b', 'e', 't', 'a', ';'], [0x3B2]),
  (['b', 'e', 't', 'h', ';'], [0x2136]),
  (['b', 'e', 't', 'w', 'e', 'e', 'n', ';'], [0x226C]),
  (['b', 'f', 'r', ';'], [0x1D51F]),
  (['b', 'i', 'g', 'c', 'a', 'p', ';'], [0x22C2]),
  (['b', 'i', 'g', 'c', 'i', 'r', 'c', ';'], [0x25EF]),
  (['b', 'i', 'g', 'c', 'u', 'p', ';'], [0x22C3]),
  (['b', 'i', 'g', 'o', 'd', 'o', 't', ';'], [0x2A00]),
  (['b', 'i', 'g', 'o', 'p', 'l', 'u', 's', ';'], [0x2A01]),
  (['b', 'i', 'g', 'o', 't', 'i', 'm', 'e', 's', ';'], [0x2A02]),
  (['b', 'i', 'g', 's', 'q', 'c', 'u', 'p', ';'], [0x2A06]),
  (['b', 'i', 'g', 's', 't', 'a', 'r', ';'], [0x2605]),
  (['b', 'i', 'g', 't', 'r', 'i', 'a', 'n', 'g', 'l', 'e', 'd', 'o', 'w', 'n', ';'], [0x25BD]),
  (['b', 'i', 'g', 't', 'r', 'i', 'a', 'n', 'g', 'l', 'e', 'u', 'p', ';'], [0x25B3]),
  (['b', 'i', 'g', 'u', 'p', 'l', 'u', 's', ';'], [0x2A04]),
  (['b', 'i', 'g', 'v', 'e', 'e', ';'], [0x22C1]),
  (['b', 'i', 'g', 'w', 'e', 'd', 'g', 'e', ';'], [0x22C0]),
  (['b', 'k', 'a', 'r', 'o', 'w', ';'], [0x290D]),
  (['b', 'l', 'a', 'c', 'k', 'l', 'o', 'z', 'e', 'n', 'g', 'e', ';'], [0x29EB]),
  (['b', 'l', 'a', 'c', 'k', 's', 'q', 'u', 'a', 'r', 'e', ';'], [0x25AA]),
  (['b', 'l', 'a', 'c', 'k', 't', 'r', 'i', 'a', 'n', 'g', 'l', 'e', ';'], [0x25B4]),
  (['b', 'l', 'a', 'c', 'k', 't', 'r', 'i', 'a', 'n', 'g', 'l', 'e', 'd', 'o', 'w', 'n', ';'],
    [0x25BE]),
  (['b', 'l', 'a', 'c', 'k', 't', 'r', 'i', 'a', 'n', 'g', 'l', 'e', 'l', 'e', 'f', 't', ';'],
    [0x25C2]),
  (['b', 'l', 'a', 'c', 'k', 't', 'r', 'i', 'a', 'n', 'g', 'l', 'e', 'r', 'i', 'g', 'h', 't',
    ';'], [0x25B8]),
  (['b', 'l', 'a', 'n', 'k', ';'], [0x2423]),
  (['b', 'l', 'k', '1', '2', ';'], [0x2592]),
  (['b', 'l', 'k', '1', '4', ';'], [0x2591]),
  (['b', 'l', 'k', '3', '4', ';'], [0x2593]),
  (['b', 'l', 'o', 'c', 'k', ';'], [0x2588]),
  (['b', 'n', 'e', ';'], [0x3D, 0x20E5]),
  (['b', 'n', 'e', 'q', 'u', 'i', 'v', ';'], [0x2261, 0x20E5]),
  (['b', 'n', 'o', 't', ';'], [0x2310]),
  (['b', 'o', 'p', 'f', ';'], [0x1D553]),
  (['b', 'o', 't', ';'], [0x22A5]),
  (['b', 'o', 't', 't', 'o', 'm', ';'], [0x22A5]),
  (['b', 'o', 'w', 't', 'i', 'e', ';'], [0x22C8]),
  (['b', 'o', 'x', 'D', 'L', ';'], [0x2557]),
  (['b', 'o', 'x', 'D', 'R', ';'], [0x2554]),
  (['b', 'o', 'x', 'D', 'l', ';'], [0x2556]),
  (['b', 'o', 'x', 'D', 'r', ';'], [0x2553]),
  (['b', 'o', 'x', 'H', ';'], [0x2550]),
  (['b', 'o', 'x', 'H', 'D', ';'], [0x2566]),
  (['b', 'o', 'x', 'H', 'U', ';'], [0x2569]),
  (['b', 'o', 'x', 'H', 'd', ';'], [0x2564]),
  (['b', 'o', 'x', 'H', 'u', ';'], [0x2567]),
  (['b', 'o', 'x', 'U', 'L', ';'], [0x255D]),
  (['b', 'o', 'x', 'U', 'R', ';'], [0x255A]),
  (['b', 'o', 'x', 'U', 'l', ';'], [0x255C]),
  (['b', 'o', 'x', 'U', 'r', ';'], [0x2559]),
  (['b', 'o', 'x', 'V', ';'], [0x2551]),
  (['b', 'o', 'x', 'V', 'H', ';'], [0x256C]),
  (['b', 'o', 'x', 'V', 'L', ';'], [0x2563]),
  (['b', 'o', 'x', 'V', 'R', ';'], [0x2560]),
  (['b', 'o', 'x', 'V', 'h', ';'], [0x256B]),
  (['b', 'o', 'x', 'V', 'l', ';'], [0x2562]),
  (['b', 'o', 'x', 'V', 'r', ';'], [0x255F]),
  (['b', 'o', 'x', 'b', 'o', 'x', ';'], [0x29C9]),
  (['b', 'o', 'x', 'd', 'L', ';'], [0x2555]),
  (['b', 'o', 'x', 'd', 'R', ';'], [0x2552]),
  (['b', 'o', 'x', 'd', 'l', ';'], [0x2510]),
  (['b', 'o', 'x', 'd', 'r', ';'], [0x250C]),
  (['b', 'o', 'x', 'h', ';'], [0x2500]),
  (['b', 'o', 'x', 'h', 'D', ';'], [0x2565]),
  (['b', 'o', 'x', 'h', 'U', ';'], [0x2568]),
  (['b', 'o', 'x', 'h', 'd', ';'], [0x252C]),
  (['b', 'o', 'x', 'h', 'u', ';'], [0x2534]),
  (['b', 'o', 'x', 'm', 'i', 'n', 'u', 's', ';'], [0x229F]),
  (['b', 'o', 'x', 'p', 'l', 'u', 's', ';'], [0x229E]),
  (['b', 'o', 'x', 't', 'i', 'm', 'e', 's', ';'], [0x22A0]),
  (['b', 'o', 'x', 'u', 'L', ';'], [0x255B]),
  (['b', 'o', 'x', 'u', 'R', ';'], [0x2558]),
  (['b', 'o', 'x', 'u', 'l', ';'], [0x2518]),
  (['b', 'o', 'x', 'u', 'r', ';'], [0x2514]),
  (['b', 'o', 'x', 'v', ';'], [0x2502]),
  (['b', 'o', 'x', 'v', 'H', ';'], [0x256A]),
  (['b', 'o', 'x', 'v', 'L', ';'], [0x2561]),
  (['b', 'o', 'x', 'v', 'R', ';'], [0x255E]),
  (['b', 'o', 'x', 'v', 'h', ';'], [0x253C]),
  (['b', 'o', 'x', 'v', 'l', ';'], [0x2524]),
  (['b', 'o', 'x', 'v', 'r', ';'], [0x251C]),
  (['b', 'p', 'r', 'i', 'm', 'e', ';'], [0x2035]),
  (['b', 'r', 'e', 'v', 'e', ';'], [0x2D8]),
  (['b', 'r', 'v', 'b', 'a', 'r'], [0xA6]),
  (['b', 'r', 'v', 'b', 'a', 'r', ';'], [0xA6]),
  (['b', 's', 'c', 'r', ';'], [0x1D4B7]),
  (['b', 's', 'e', 'm', 'i', ';'], [0x204F]),
  (['b', 's', 'i', 'm', ';'], [0x223D]),
  (['b', 's', 'i', 'm', 'e', ';'], [0x22CD]),
  (['b', 's', 'o', 'l', ';'], [0x5C]),
  (['b', 's', 'o', 'l', 'b', ';'], [0x29C5]),
  (['b', 's', 'o', 'l', 'h', 's', 'u', 'b', ';'], [0x27C8]),
  (['b', 'u', 'l', 'l', ';'], [0x2022]),
  (['b', 'u', 'l', 'l', 'e', 't', ';'], [0x2022]),
  (['b', 'u', 'm', 'p', ';'], [0x224E]),
  (['b', 'u', 'm', 'p', 'E', ';'], [0x2AAE]),
  (['b', 'u', 'm', 'p', 'e', ';'], [0x224F]),
  (['b', 'u', 'm', 'p', 'e', 'q', ';'], [0x224F])]

/-- The names that start with `c`. -/
def smallC : List (List Char × Text) := [
  (['c', 'a', 'c', 'u', 't', 'e', ';'], [0x107]),
  (['c', 'a', 'p', ';'], [0x2229]),
  (['c', 'a', 'p', 'a', 'n', 'd', ';'], [0x2A44]),
  (['c', 'a', 'p', 'b', 'r', 'c', 'u', 'p', ';'], [0x2A49]),
  (['c', 'a', 'p', 'c', 'a', 'p', ';'], [0x2A4B]),
  (['c', 'a', 'p', 'c', 'u', 'p', ';'], [0x2A47]),
  (['c', 'a', 'p', 'd', 'o', 't', ';'], [0x2A40]),
  (['c', 'a', 'p', 's', ';'], [0x2229, 0xFE00]),
  (['c', 'a', 'r', 'e', 't', ';'], [0x2041]),
  (['c', 'a', 'r', 'o', 'n', ';'], [0x2C7]),
  (['c', 'c', 'a', 'p', 's', ';'], [0x2A4D]),
  (['c', 'c', 'a', 'r', 'o', 'n', ';'], [0x10D]),
  (['c', 'c', 'e', 'd', 'i', 'l'], [0xE7]),
  (['c', 'c', 'e', 'd', 'i', 'l', ';'], [0xE7]),
  (['c', 'c', 'i', 'r', 'c', ';'], [0x109]),
  (['c', 'c', 'u', 'p', 's', ';'], [0x2A4C]),
  (['c', 'c', 'u', 'p', 's', 's', 'm', ';'], [0x2A50]),
  (['c', 'd', 'o', 't', ';'], [0x10B]),
  (['c', 'e', 'd', 'i', 'l'], [0xB8]),
  (['c', 'e', 'd', 'i', 'l', ';'], [0xB8]),
  (['c', 'e', 'm', 'p', 't', 'y', 'v', ';'], [0x29B2]),
  (['c', 'e', 'n', 't'], [0xA2]),
  (['c', 'e', 'n', 't', ';'], [0xA2]),
  (['c', 'e', 'n', 't', 'e', 'r', 'd', 'o', 't', ';'], [0xB7]),
  (['c', 'f', 'r', ';'], [0x1D520]),
  (['c', 'h', 'c', 'y', ';'], [0x447]),
  (['c', 'h', 'e', 'c', 'k', ';'], [0x2713]),
  (['c', 'h', 'e', 'c', 'k', 'm', 'a', 'r', 'k', ';'], [0x2713]),
  (['c', 'h', 'i', ';'], [0x3C7]),
  (['c', 'i', 'r', ';'], [0x25CB]),
  (['c', 'i', 'r', 'E', ';'], [0x29C3]),
  (['c', 'i', 'r', 'c', ';'], [0x2C6]),
  (['c', 'i', 'r', 'c', 'e', 'q', ';'], [0x2257]),
  (['c', 'i', 'r', 'c', 'l', 'e', 'a', 'r', 'r', 'o', 'w', 'l', 'e', 'f', 't', ';'], [0x21BA]),
  (['c', 'i', 'r', 'c', 'l', 'e', 'a', 'r', 'r', 'o', 'w', 'r', 'i', 'g', 'h', 't', ';'],
    [0x21BB]),
  (['c', 'i', 'r', 'c', 'l', 'e', 'd', 'R', ';'], [0xAE]),
  (['c', 'i', 'r', 'c', 'l', 'e', 'd', 'S', ';'], [0x24C8]),
  (['c', 'i', 'r', 'c', 'l', 'e', 'd', 'a', 's', 't', ';'], [0x229B]),
  (['c', 'i', 'r', 'c', 'l', 'e', 'd', 'c', 'i', 'r', 'c', ';'], [0x229A]),
  (['c', 'i', 'r', 'c', 'l', 'e', 'd', 'd', 'a', 's', 'h', ';'], [0x229D]),
  (['c', 'i', 'r', 'e', ';'], [0x2257]),
  (['c', 'i', 'r', 'f', 'n', 'i', 'n', 't', ';'], [0x2A10]),
  (['c', 'i', 'r', 'm', 'i', 'd', ';'], [0x2AEF]),
  (['c', 'i', 'r', 's', 'c', 'i', 'r', ';'], [0x29C2]),
  (['c', 'l', 'u', 'b', 's', ';'], [0x2663]),
  (['c', 'l', 'u', 'b', 's', 'u', 'i', 't', ';'], [0x2663]),
  (['c', 'o', 'l', 'o', 'n', ';'], [0x3A]),
  (['c', 'o', 'l', 'o', 'n', 'e', ';'], [0x2254]),
  (['c', 'o', 'l', 'o', 'n', 'e', 'q', ';'], [0x2254]),
  (['c', 'o', 'm', 'm', 'a', ';'], [0x2C]),
  (['c', 'o', 'm', 'm', 'a', 't', ';'], [0x40]),
  (['c', 'o', 'm', 'p', ';'], [0x2201]),
  (['c', 'o', 'm', 'p', 'f', 'n', ';'], [0x2218]),
  (['c', 'o', 'm', 'p', 'l', 'e', 'm', 'e', 'n', 't', ';'], [0x2201]),
  (['c', 'o', 'm', 'p', 'l', 'e', 'x', 'e', 's', ';'], [0x2102]),
  (['c', 'o', 'n', 'g', ';'], [0x2245]),
  (['c', 'o', 'n', 'g', 'd', 'o', 't', ';'], [0x2A6D]),
  (['c', 'o', 'n', 'i', 'n', 't', ';'], [0x222E]),
  (['c', 'o', 'p', 'f', ';'], [0x1D554]),
  (['c', 'o', 'p', 'r', 'o', 'd', ';'], [0x2210]),
  (['c', 'o', 'p', 'y'], [0xA9]),
  (['c', 'o', 'p', 'y', ';'], [0xA9]),
  (['c', 'o', 'p', 'y', 's', 'r', ';'], [0x2117]),
  (['c', 'r', 'a', 'r', 'r', ';'], [0x21B5]),
  (['c', 'r', 'o', 's', 's', ';'], [0x2717]),
  (['c', 's', 'c', 'r', ';'], [0x1D4B8]),
  (['c', 's', 'u', 'b', ';'], [0x2ACF]),
  (['c', 's', 'u', 'b', 'e', ';'], [0x2AD1]),
  (['c', 's', 'u', 'p', ';'], [0x2AD0]),
  (['c', 's', 'u', 'p', 'e', ';'], [0x2AD2]),
  (['c', 't', 'd', 'o', 't', ';'], [0x22EF]),
  (['c', 'u', 'd', 'a', 'r', 'r', 'l', ';'], [0x2938]),
  (['c', 'u', 'd', 'a', 'r', 'r', 'r', ';'], [0x2935]),
  (['c', 'u', 'e', 'p', 'r', ';'], [0x22DE]),
  (['c', 'u', 'e', 's', 'c', ';'], [0x22DF]),
  (['c', 'u', 'l', 'a', 'r', 'r', ';'], [0x21B6]),
  (['c', 'u', 'l', 'a', 'r', 'r', 'p', ';'], [0x293D]),
  (['c', 'u', 'p', ';'], [0x222A]),
  (['c', 'u', 'p', 'b', 'r', 'c', 'a', 'p', ';'], [0x2A48]),
  (['c', 'u', 'p', 'c', 'a', 'p', ';'], [0x2A46]),
  (['c', 'u', 'p', 'c', 'u', 'p', ';'], [0x2A4A]),
  (['c', 'u', 'p', 'd', 'o', 't', ';'], [0x228D]),
  (['c', 'u', 'p', 'o', 'r', ';'], [0x2A45]),
  (['c', 'u', 'p', 's', ';'], [0x222A, 0xFE00]),
  (['c', 'u', 'r', 'a', 'r', 'r', ';'], [0x21B7]),
  (['c', 'u', 'r', 'a', 'r', 'r', 'm', ';'], [0x293C]),
  (['c', 'u', 'r', 'l', 'y', 'e', 'q', 'p', 'r', 'e', 'c', ';'], [0x22DE]),
  (['c', 'u', 'r', 'l', 'y', 'e', 'q', 's', 'u', 'c', 'c', ';'], [0x22DF]),
  (['c', 'u', 'r', 'l', 'y', 'v', 'e', 'e', ';'], [0x22CE]),
  (['c', 'u', 'r', 'l', 'y', 'w', 'e', 'd', 'g', 'e', ';'], [0x22CF]),
  (['c', 'u', 'r', 'r', 'e', 'n'], [0xA4]),
  (['c', 'u', 'r', 'r', 'e', 'n', ';'], [0xA4]),
  (['c', 'u', 'r', 'v', 'e', 'a', 'r', 'r', 'o', 'w', 'l', 'e', 'f', 't', ';'], [0x21B6]),
  (['c', 'u', 'r', 'v', 'e', 'a', 'r', 'r', 'o', 'w', 'r', 'i', 'g', 'h', 't', ';'], [0x21B7]),
  (['c', 'u', 'v', 'e', 'e', ';'], [0x22CE]),
  (['c', 'u', 'w', 'e', 'd', ';'], [0x22CF]),
  (['c', 'w', 'c', 'o', 'n', 'i', 'n', 't', ';'], [0x2232]),
  (['c', 'w', 'i', 'n', 't', ';'], [0x2231]),
  (['c', 'y', 'l', 'c', 't', 'y', ';'], [0x232D])]

/-- The names that start with `d`. -/
def smallD : List (List Char × Text) := [
  (['d', 'A', 'r', 'r', ';'], [0x21D3]),
  (['d', 'H', 'a', 'r', ';'], [0x2965]),
  (['d', 'a', 'g', 'g', 'e', 'r', ';'], [0x2020]),
  (['d', 'a', 'l', 'e', 't', 'h', ';'], [0x2138]),
  (['d', 'a', 'r', 'r', ';'], [0x2193]),
  (['d', 'a', 's', 'h', ';'], [0x2010]),
  (['d', 'a', 's', 'h', 'v', ';'], [0x22A3]),
  (['d', 'b', 'k', 'a', 'r', 'o', 'w', ';'], [0x290F]),
  (['d', 'b', 'l', 'a', 'c', ';'], [0x2DD]),
  (['d', 'c', 'a', 'r', 'o', 'n', ';'], [0x10F]),
  (['d', 'c', 'y', ';'], [0x434]),
  (['d', 'd', ';'], [0x2146]),
  (['d', 'd', 'a', 'g', 'g', 'e', 'r', ';'], [0x2021]),
  (['d', 'd', 'a', 'r', 'r', ';'], [0x21CA]),
  (['d', 'd', 'o', 't', 's', 'e', 'q', ';'], [0x2A77]),
  (['d', 'e', 'g'], [0xB0]),
  (['d', 'e', 'g', ';'], [0xB0]),
  (['d', 'e', 'l', 't', 'a', ';'], [0x3B4]),
  (['d', 'e', 'm', 'p', 't', 'y', 'v', ';'], [0x29B1]),
  (['d', 'f', 'i', 's', 'h', 't', ';'], [0x297F]),
  (['d', 'f', 'r', ';'], [0x1D521]),
  (['d', 'h', 'a', 'r', 'l', ';'], [0x21C3]),
  (['d', 'h', 'a', 'r', 'r', ';'], [0x21C2]),
  (['d', 'i', 'a', 'm', ';'], [0x22C4]),
  (['d', 'i', 'a', 'm', 'o', 'n', 'd', ';'], [0x22C4]),
  (['d', 'i', 'a', 'm', 'o', 'n', 'd', 's', 'u', 'i', 't', ';'], [0x2666]),
  (['d', 'i', 'a', 'm', 's', ';'], [0x2666]),
  (['d', 'i', 'e', ';'], [0xA8]),
  (['d', 'i', 'g', 'a', 'm', 'm', 'a', ';'], [0x3DD]),
  (['d', 'i', 's', 'i', 'n', ';'], [0x22F2]),
  (['d', 'i', 'v', ';'], [0xF7]),
  (['d', 'i', 'v', 'i', 'd', 'e'], [0xF7]),
  (['d', 'i', 'v', 'i', 'd', 'e', ';'], [0xF7]),
  (['d', 'i', 'v', 'i', 'd', 'e', 'o', 'n', 't', 'i', 'm', 'e', 's', ';'], [0x22C7]),
  (['d', 'i', 'v', 'o', 'n', 'x', ';'], [0x22C7]),
  (['d', 'j', 'c', 'y', ';'], [0x452]),
  (['d', 'l', 'c', 'o', 'r', 'n', ';'], [0x231E]),
  (['d', 'l', 'c', 'r', 'o', 'p', ';'], [0x230D]),
  (['d', 'o', 'l', 'l', 'a', 'r', ';'], [0x24]),
  (['d', 'o', 'p', 'f', ';'], [0x1D555]),
  (['d', 'o', 't', ';'], [0x2D9]),
  (['d', 'o', 't', 'e', 'q', ';'], [0x2250]),
  (['d', 'o', 't', 'e', 'q', 'd', 'o', 't', ';'], [0x2251]),
  (['d', 'o', 't', 'm', 'i', 'n', 'u', 's', ';'], [0x2238]),
  (['d', 'o', 't', 'p', 'l', 'u', 's', ';'], [0x2214]),
  (['d', 'o', 't', 's', 'q', 'u', 'a', 'r', 'e', ';'], [0x22A1]),
  (['d', 'o', 'u', 'b', 'l', 'e', 'b', 'a', 'r', 'w', 'e', 'd', 'g', 'e', ';'], [0x2306]),
  (['d', 'o', 'w', 'n', 'a', 'r', 'r', 'o', 'w', ';'], [0x2193]),
  (['d', 'o', 'w', 'n', 'd', 'o', 'w', 'n', 'a', 'r', 'r', 'o', 'w', 's', ';'], [0x21CA]),
  (['d', 'o', 'w', 'n', 'h', 'a', 'r', 'p', 'o', 'o', 'n', 'l', 'e', 'f', 't', ';'], [0x21C3]),
  (['d', 'o', 'w', 'n', 'h', 'a', 'r', 'p', 'o', 'o', 'n', 'r', 'i', 'g', 'h', 't', ';'],
    [0x21C2]),
  (['d', 'r', 'b', 'k', 'a', 'r', 'o', 'w', ';'], [0x2910]),
  (['d', 'r', 'c', 'o', 'r', 'n', ';'], [0x231F]),
  (['d', 'r', 'c', 'r', 'o', 'p', ';'], [0x230C]),
  (['d', 's', 'c', 'r', ';'], [0x1D4B9]),
  (['d', 's', 'c', 'y', ';'], [0x455]),
  (['d', 's', 'o', 'l', ';'], [0x29F6]),
  (['d', 's', 't', 'r', 'o', 'k', ';'], [0x111]),
  (['d', 't', 'd', 'o', 't', ';'], [0x22F1]),
  (['d', 't', 'r', 'i', ';'], [0x25BF]),
  (['d', 't', 'r', 'i', 'f', ';'], [0x25BE]),
  (['d', 'u', 'a', 'r', 'r', ';'], [0x21F5]),
  (['d', 'u', 'h', 'a', 'r', ';'], [0x296F]),
  (['d', 'w', 'a', 'n', 'g', 'l', 'e', ';'], [0x29A6]),
  (['d', 'z', 'c', 'y', ';'], [0x45F]),
  (['d', 'z', 'i', 'g', 'r', 'a', 'r', 'r', ';'], [0x27FF])]

/-- The names that start with `e`. -/
def smallE : List (List Char × Text) := [
  (['e', 'D', 'D', 'o', 't', ';'], [0x2A77]),
  (['e', 'D', 'o', 't', ';'], [0x2251]),
  (['e', 'a', 'c', 'u', 't', 'e'], [0xE9]),
  (['e', 'a', 'c', 'u', 't', 'e', ';'], [0xE9]),
  (['e', 'a', 's', 't', 'e', 'r', ';'], [0x2A6E]),
  (['e', 'c', 'a', 'r', 'o', 'n', ';'], [0x11B]),
  (['e', 'c', 'i', 'r', ';'], [0x2256]),
  (['e', 'c', 'i', 'r', 'c'], [0xEA]),
  (['e', 'c', 'i', 'r', 'c', ';'], [0xEA]),
  (['e', 'c', 'o', 'l', 'o', 'n', ';'], [0x2255]),
  (['e', 'c', 'y', ';'], [0x44D]),
  (['e', 'd', 'o', 't', ';'], [0x117]),
  (['e', 'e', ';'], [0x2147]),
  (['e', 'f', 'D', 'o', 't', ';'], [0x2252]),
  (['e', 'f', 'r', ';'], [0x1D522]),
  (['e', 'g', ';'], [0x2A9A]),
  (['e', 'g', 'r', 'a', 'v', 'e'], [0xE8]),
  (['e', 'g', 'r', 'a', 'v', 'e', ';'], [0xE8]),
  (['e', 'g', 's', ';'], [0x2A96]),
  (['e', 'g', 's', 'd', 'o', 't', ';'], [0x2A98]),
  (['e', 'l', ';'], [0x2A99]),
  (['e', 'l', 'i', 'n', 't', 'e', 'r', 's', ';'], [0x23E7]),
  (['e', 'l', 'l', ';'], [0x2113]),
  (['e', 'l', 's', ';'], [0x2A95]),
  (['e', 'l', 's', 'd', 'o', 't', ';'], [0x2A97]),
  (['e', 'm', 'a', 'c', 'r', ';'], [0x113]),
  (['e', 'm', 'p', 't', 'y', ';'], [0x2205]),
  (['e', 'm', 'p', 't', 'y', 's', 'e', 't', ';'], [0x2205]),
  (['e', 'm', 'p', 't', 'y', 'v', ';'], [0x2205]),
  (['e', 'm', 's', 'p', '1', '3', ';'], [0x2004]),
  (['e', 'm', 's', 'p', '1', '4', ';'], [0x2005]),
  (['e', 'm', 's', 'p', ';'], [0x2003]),
  (['e', 'n', 'g', ';'], [0x14B]),
  (['e', 'n', 's', 'p', ';'], [0x2002]),
  (['e', 'o', 'g', 'o', 'n', ';'], [0x119]),
  (['e', 'o', 'p', 'f', ';'], [0x1D556]),
  (['e', 'p', 'a', 'r', ';'], [0x22D5]),
  (['e', 'p', 'a', 'r', 's', 'l', ';'], [0x29E3]),
  (['e', 'p', 'l', 'u', 's', ';'], [0x2A71]),
  (['e', 'p', 's', 'i', ';'], [0x3B5]),
  (['e', 'p', 's', 'i', 'l', 'o', 'n', ';'], [0x3B5]),
  (['e', 'p', 's', 'i', 'v', ';'], [0x3F5]),
  (['e', 'q', 'c', 'i', 'r', 'c', ';'], [0x2256]),
  (['e', 'q', 'c', 'o', 'l', 'o', 'n', ';'], [0x2255]),
  (['e', 'q', 's', 'i', 'm', ';'], [0x2242]),
  (['e', 'q', 's', 'l', 'a', 'n', 't', 'g', 't', 'r', ';'], [0x2A96]),
  (['e', 'q', 's', 'l', 'a', 'n', 't', 'l', 'e', 's', 's', ';'], [0x2A95]),
  (['e', 'q', 'u', 'a', 'l', 's', ';'], [0x3D]),
  (['e', 'q', 'u', 'e', 's', 't', ';'], [0x225F]),
  (['e', 'q', 'u', 'i', 'v', ';'], [0x2261]),
  (['e', 'q', 'u', 'i', 'v', 'D', 'D', ';'], [0x2A78]),
  (['e', 'q', 'v', 'p', 'a', 'r', 's', 'l', ';'], [0x29E5]),
  (['e', 'r', 'D', 'o', 't', ';'], [0x2253]),
  (['e', 'r', 'a', 'r', 'r', ';'], [0x2971]),
  (['e', 's', 'c', 'r', ';'], [0x212F]),
  (['e', 's', 'd', 'o', 't', ';'], [0x2250]),
  (['e', 's', 'i', 'm', ';'], [0x2242]),
  (['e', 't', 'a', ';'], [0x3B7]),
  (['e', 't', 'h'], [0xF0]),
  (['e', 't', 'h', ';'], [0xF0]),
  (['e', 'u', 'm', 'l'], [0xEB]),
  (['e', 'u', 'm', 'l', ';'], [0xEB]),
  (['e', 'u', 'r', 'o', ';'], [0x20AC]),
  (['e', 'x', 'c', 'l', ';'], [0x21]),
  (['e', 'x', 'i', 's', 't', ';'], [0x2203]),
  (['e', 'x', 'p', 'e', 'c', 't', 'a', 't', 'i', 'o', 'n', ';'], [0x2130]),
  (['e', 'x', 'p', 'o', 'n', 'e', 'n', 't', 'i', 'a', 'l', 'e', ';'], [0x2147])]

/-- The names that start with `f`. -/
def smallF : List (List Char × Text) := [
  (['f', 'a', 'l', 'l', 'i', 'n', 'g', 'd', 'o', 't', 's', 'e', 'q', ';'], [0x2252]),
  (['f', 'c', 'y', ';'], [0x444]),
  (['f', 'e', 'm', 'a', 'l', 'e', ';'], [0x2640]),
  (['f', 'f', 'i', 'l', 'i', 'g', ';'], [0xFB03]),
  (['f', 'f', 'l', 'i', 'g', ';'], [0xFB00]),
  (['f', 'f', 'l', 'l', 'i', 'g', ';'], [0xFB04]),
  (['f', 'f', 'r', ';'], [0x1D523]),
  (['f', 'i', 'l', 'i', 'g', ';'], [0xFB01]),
  (['f', 'j', 'l', 'i', 'g', ';'], [0x66, 0x6A]),
  (['f', 'l', 'a', 't', ';'], [0x266D]),
  (['f', 'l', 'l', 'i', 'g', ';'], [0xFB02]),
  (['f', 'l', 't', 'n', 's', ';'], [0x25B1]),
  (['f', 'n', 'o', 'f', ';'], [0x192]),
  (['f', 'o', 'p', 'f', ';'], [0x1D557]),
  (['f', 'o', 'r', 'a', 'l', 'l', ';'], [0x2200]),
  (['f', 'o', 'r', 'k', ';'], [0x22D4]),
  (['f', 'o', 'r', 'k', 'v', ';'], [0x2AD9]),
  (['f', 'p', 'a', 'r', 't', 'i', 'n', 't', ';'], [0x2A0D]),
  (['f', 'r', 'a', 'c', '1', '2'], [0xBD]),
  (['f', 'r', 'a', 'c', '1', '2', ';'], [0xBD]),
  (['f', 'r', 'a', 'c', '1', '3', ';'], [0x2153]),
  (['f', 'r', 'a', 'c', '1', '4'], [0xBC]),
  (['f', 'r', 'a', 'c', '1', '4', ';'], [0xBC]),
  (['f', 'r', 'a', 'c', '1', '5', ';'], [0x2155]),
  (['f', 'r', 'a', 'c', '1', '6', ';'], [0x2159]),
  (['f', 'r', 'a', 'c', '1', '8', ';'], [0x215B]),
  (['f', 'r', 'a', 'c', '2', '3', ';'], [0x2154]),
  (['f', 'r', 'a', 'c', '2', '5', ';'], [0x2156]),
  (['f', 'r', 'a', 'c', '3', '4'], [0xBE]),
  (['f', 'r', 'a', 'c', '3', '4', ';'], [0xBE]),
  (['f', 'r', 'a', 'c', '3', '5', ';'], [0x2157]),
  (['f', 'r', 'a', 'c', '3', '8', ';'], [0x215C]),
  (['f', 'r', 'a', 'c', '4', '5', ';'], [0x2158]),
  (['f', 'r', 'a', 'c', '5', '6', ';'], [0x215A]),
  (['f', 'r', 'a', 'c', '5', '8', ';'], [0x215D]),
  (['f', 'r', 'a', 'c', '7', '8', ';'], [0x215E]),
  (['f', 'r', 'a', 's', 'l', ';'], [0x2044]),
  (['f', 'r', 'o', 'w', 'n', ';'], [0x2322]),
  (['f', 's', 'c', 'r', ';'], [0x1D4BB])]

/-- The names that start with `g`. -/
def smallG : List (List Char × Text) := [
  (['g', 'E', ';'], [0x2267]),
  (['g', 'E', 'l', ';'], [0x2A8C]),
  (['g', 'a', 'c', 'u', 't', 'e', ';'], [0x1F5]),
  (['g', 'a', 'm', 'm', 'a', ';'], [0x3B3]),
  (['g', 'a', 'm', 'm', 'a', 'd', ';'], [0x3DD]),
  (['g', 'a', 'p', ';'], [0x2A86]),
  (['g', 'b', 'r', 'e', 'v', 'e', ';'], [0x11F]),
  (['g', 'c', 'i', 'r', 'c', ';'], [0x11D]),
  (['g', 'c', 'y', ';'], [0x433]),
  (['g', 'd', 'o', 't', ';'], [0x121]),
  (['g', 'e', ';'], [0x2265]),
  (['g', 'e', 'l', ';'], [0x22DB]),
  (['g', 'e', 'q', ';'], [0x2265]),
  (['g', 'e', 'q', 'q', ';'], [0x2267]),
  (['g', 'e', 'q', 's', 'l', 'a', 'n', 't', ';'], [0x2A7E]),
  (['g', 'e', 's', ';'], [0x2A7E]),
  (['g', 'e', 's', 'c', 'c', ';'], [0x2AA9]),
  (['g', 'e', 's', 'd', 'o', 't', ';'], [0x2A80]),
  (['g', 'e', 's', 'd', 'o', 't', 'o', ';'], [0x2A82]),
  (['g', 'e', 's', 'd', 'o', 't', 'o', 'l', ';'], [0x2A84]),
  (['g', 'e', 's', 'l', ';'], [0x22DB, 0xFE00]),
  (['g', 'e', 's', 'l', 'e', 's', ';'], [0x2A94]),
  (['g', 'f', 'r', ';'], [0x1D524]),
  (['g', 'g', ';'], [0x226B]),
  (['g', 'g', 'g', ';'], [0x22D9]),
  (['g', 'i', 'm', 'e', 'l', ';'], [0x2137]),
  (['g', 'j', 'c', 'y', ';'], [0x453]),
  (['g', 'l', ';'], [0x2277]),
  (['g', 'l', 'E', ';'], [0x2A92]),
  (['g', 'l', 'a', ';'], [0x2AA5]),
  (['g', 'l', 'j', ';'], [0x2AA4]),
  (['g', 'n', 'E', ';'], [0x2269]),
  (['g', 'n', 'a', 'p', ';'], [0x2A8A]),
  (['g', 'n', 'a', 'p', 'p', 'r', 'o', 'x', ';'], [0x2A8A]),
  (['g', 'n', 'e', ';'], [0x2A88]),
  (['g', 'n', 'e', 'q', ';'], [0x2A88]),
  (['g', 'n', 'e', 'q', 'q', ';'], [0x2269]),
  (['g', 'n', 's', 'i', 'm', ';'], [0x22E7]),
  (['g', 'o', 'p', 'f', ';'], [0x1D558]),
  (['g', 'r', 'a', 'v', 'e', ';'], [0x60]),
  (['g', 's', 'c', 'r', ';'], [0x210A]),
  (['g', 's', 'i', 'm', ';'], [0x2273]),
  (['g', 's', 'i', 'm', 'e', ';'], [0x2A8E]),
  (['g', 's', 'i', 'm', 'l', ';'], [0x2A90]),
  (['g', 't'], [0x3E]),
  (['g', 't', ';'], [0x3E]),
  (['g', 't', 'c', 'c', ';'], [0x2AA7]),
  (['g', 't', 'c', 'i', 'r', ';'], [0x2A7A]),
  (['g', 't', 'd', 'o', 't', ';'], [0x22D7]),
  (['g', 't', 'l', 'P', 'a', 'r', ';'], [0x2995]),
  (['g', 't', 'q', 'u', 'e', 's', 't', ';'], [0x2A7C]),
  (['g', 't', 'r', 'a', 'p', 'p', 'r', 'o', 'x', ';'], [0x2A86]),
  (['g', 't', 'r', 'a', 'r', 'r', ';'], [0x2978]),
  (['g', 't', 'r', 'd', 'o', 't', ';'], [0x22D7]),
  (['g', 't', 'r', 'e', 'q', 'l', 'e', 's', 's', ';'], [0x22DB]),
  (['g', 't', 'r', 'e', 'q', 'q', 'l', 'e', 's', 's', ';'], [0x2A8C]),
  (['g', 't', 'r', 'l', 'e', 's', 's', ';'], [0x2277]),
  (['g', 't', 'r', 's', 'i', 'm', ';'], [0x2273]),
  (['g', 'v', 'e', 'r', 't', 'n', 'e', 'q', 'q', ';'], [0x2269, 0xFE00]),
  (['g', 'v', 'n', 'E', ';'], [0x2269, 0xFE00])]

/-- The names that start with `h`. -/
def smallH : List (List Char × Text) := [
  (['h', 'A', 'r', 'r', ';'], [0x21D4]),
  (['h', 'a', 'i', 'r', 's', 'p', ';'], [0x200A]),
  (['h', 'a', 'l', 'f', ';'], [0xBD]),
  (['h', 'a', 'm', 'i', 'l', 't', ';'], [0x210B]),
  (['h', 'a', 'r', 'd', 'c', 'y', ';'], [0x44A]),
  (['h', 'a', 'r', 'r', ';'], [0x2194]),
  (['h', 'a', 'r', 'r', 'c', 'i', 'r', ';'], [0x2948]),
  (['h', 'a', 'r', 'r', 'w', ';'], [0x21AD]),
  (['h', 'b', 'a', 'r', ';'], [0x210F]),
  (['h', 'c', 'i', 'r', 'c', ';'], [0x125]),
  (['h', 'e', 'a', 'r', 't', 's', ';'], [0x2665]),
  (['h', 'e', 'a', 'r', 't', 's', 'u', 'i', 't', ';'], [0x2665]),
  (['h', 'e', 'l', 'l', 'i', 'p', ';'], [0x2026]),
  (['h', 'e', 'r', 'c', 'o', 'n', ';'], [0x22B9]),
  (['h', 'f', 'r', ';'], [0x1D525]),
  (['h', 'k', 's', 'e', 'a', 'r', 'o', 'w', ';'], [0x2925]),
  (['h', 'k', 's', 'w', 'a', 'r', 'o', 'w', ';'], [0x2926]),
  (['h', 'o', 'a', 'r', 'r', ';'], [0x21FF]),
  (['h', 'o', 'm', 't', 'h', 't', ';'], [0x223B]),
  (['h', 'o', 'o', 'k', 'l', 'e', 'f', 't', 'a', 'r', 'r', 'o', 'w', ';'], [0x21A9]),
  (['h', 'o', 'o', 'k', 'r', 'i', 'g', 'h', 't', 'a', 'r', 'r', 'o', 'w', ';'], [0x21AA]),
  (['h', 'o', 'p', 'f', ';'], [0x1D559]),
  (['h', 'o', 'r', 'b', 'a', 'r', ';'], [0x2015]),
  (['h', 's', 'c', 'r', ';'], [0x1D4BD]),
  (['h', 's', 'l', 'a', 's', 'h', ';'], [0x210F]),
  (['h', 's', 't', 'r', 'o', 'k', ';'], [0x127]),
  (['h', 'y', 'b', 'u', 'l', 'l', ';'], [0x2043]),
  (['h', 'y', 'p', 'h', 'e', 'n', ';'], [0x2010])]

/-- All names that start with `a` to `h`. -/
def aToHNames : List (List Char × Text) :=
  smallA ++ smallB ++ smallC ++ smallD ++ smallE ++ smallF ++ smallG ++ smallH

end TokenConformance.Reference
