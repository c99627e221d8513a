import TokenConformance.Text.CodePoint

/-!
# Reference names — those that start with a capital letter

Each name as it is written behind the ampersand, with its semicolon where it has one, and the code
points it stands for.  Names are spelled out letter by letter, so that statements about all of
them can be settled by evaluation.
-/

namespace TokenConformance.Reference

/-- The names that start with `A`. -/
def capitalA : List (List Char × Text) := [
  (['A', 'E', 'l', 'i', 'g'], [0xC6]),
  (['A', 'E', 'l', 'i', 'g', ';'], [0xC6]),
  (['A', 'M', 'P'], [0x26]),
  (['A', 'M', 'P', ';'], [0x26]),
  (['A', 'a', 'c', 'u', 't', 'e'], [0xC1]),
  (['A', 'a', 'c', 'u', 't', 'e', ';'], [0xC1]),
  (['A', 'b', 'r', 'e', 'v', 'e', ';'], [0x102]),
  (['A', 'c', 'i', 'r', 'c'], [0xC2]),
  (['A', 'c', 'i', 'r', 'c', ';'], [0xC2]),
  (['A', 'c', 'y', ';'], [0x410]),
  (['A', 'f', 'r', ';'], [0x1D504]),
  (['A', 'g', 'r', 'a', 'v', 'e'], [0xC0]),
  (['A', 'g', 'r', 'a', 'v', 'e', ';'], [0xC0]),
  (['A', 'l', 'p', 'h', 'a', ';'], [0x391]),
  (['A', 'm', 'a', 'c', 'r', ';'], [0x100]),
  (['A', 'n', 'd', ';'], [0x2A53]),
  (['A', 'o', 'g', 'o', 'n', ';'], [0x104]),
  (['A', 'o', 'p', 'f', ';'], [0x1D538]),
  (['A', 'p', 'p', 'l', 'y', 'F', 'u', 'n', 'c', 't', 'i', 'o', 'n', ';'], [0x2061]),
  (['A', 'r', 'i', 'n', 'g'], [0xC5]),
  (['A', 'r', 'i', 'n', 'g', ';'], [0xC5]),
  (['A', 's', 'c', 'r', ';'], [0x1D49C]),
  (['A', 's', 's', 'i', 'g', 'n', ';'], [0x2254]),
  (['A', 't', 'i', 'l', 'd', 'e'], [0xC3]),
  (['A', 't', 'i', 'l', 'd', 'e', ';'], [0xC3]),
  (['A', 'u', 'm', 'l'], [0xC4]),
  (['A', 'u', 'm', 'l', ';'], [0xC4])]

/-- The names that start with `B`. -/
def capitalB : List (List Char × Text) := [
  (['B', 'a', 'c', 'k', 's', 'l', 'a', 's', 'h', ';'], [0x2216]),
  (['B', 'a', 'r', 'v', ';'], [0x2AE7]),
  (['B', 'a', 'r', 'w', 'e', 'd', ';'], [0x2306]),
  (['B', 'c', 'y', ';'], [0x411]),
  (['B', 'e', 'c', 'a', 'u', 's', 'e', ';'], [0x2235]),
  (['B', 'e', 'r', 'n', 'o', 'u', 'l', 'l', 'i', 's', ';'], [0x212C]),
  (['B', 'e', 't', 'a', ';'], [0x392]),
  (['B', 'f', 'r', ';'], [0x1D505]),
  (['B', 'o', 'p', 'f', ';'], [0x1D539]),
  (['B', 'r', 'e', 'v', 'e', ';'], [0x2D8]),
  (['B', 's', 'c', 'r', ';'], [0x212C]),
  (['B', 'u', 'm', 'p', 'e', 'q', ';'], [0x224E])]

/-- The names that start with `C`. -/
def capitalC : List (List Char × Text) := [
  (['C', 'H', 'c', 'y', ';'], [0x427]),
  (['C', 'O', 'P', 'Y'], [0xA9]),
  (['C', 'O', 'P', 'Y', ';'], [0xA9]),
  (['C', 'a', 'c', 'u', 't', 'e', ';'], [0x106]),
  (['C', 'a', 'p', ';'], [0x22D2]),
  (['C', 'a', 'p', 'i', 't', 'a', 'l', 'D', 'i', 'f', 'f', 'e', 'r', 'e', 'n', 't', 'i', 'a', 'l',
    'D', ';'], [0x2145]),
  (['C', 'a', 'y', 'l', 'e', 'y', 's', ';'], [0x212D]),
  (['C', 'c', 'a', 'r', 'o', 'n', ';'], [0x10C]),
  (['C', 'c', 'e', 'd', 'i', 'l'], [0xC7]),
  (['C', 'c', 'e', 'd', 'i', 'l', ';'], [0xC7]),
  (['C', 'c', 'i', 'r', 'c', ';'], [0x108]),
  (['C', 'c', 'o', 'n', 'i', 'n', 't', ';'], [0x2230]),
  (['C', 'd', 'o', 't', ';'], [0x10A]),
  (['C', 'e', 'd', 'i', 'l', 'l', 'a', ';'], [0xB8]),
  (['C', 'e', 'n', 't', 'e', 'r', 'D', 'o', 't', ';'], [0xB7]),
  (['C', 'f', 'r', ';'], [0x212D]),
  (['C', 'h', 'i', ';'], [0x3A7]),
  (['C', 'i', 'r', 'c', 'l', 'e', 'D', 'o', 't', ';'], [0x2299]),
  (['C', 'i', 'r', 'c', 'l', 'e', 'M', 'i', 'n', 'u', 's', ';'], [0x2296]),
  (['C', 'i', 'r', 'c', 'l', 'e', 'P', 'l', 'u', 's', ';'], [0x2295]),
  (['C', 'i', 'r', 'c', 'l', 'e', 'T', 'i', 'm', 'e', 's', ';'], [0x2297]),
  (['C', 'l', 'o', 'c', 'k', 'w', 'i', 's', 'e', 'C', 'o', 'n', 't', 'o', 'u', 'r', 'I', 'n', 't',
    'e', 'g', 'r', 'a', 'l', ';'], [0x2232]),
  (['C', 'l', 'o', 's', 'e', 'C', 'u', 'r', 'l', 'y', 'D', 'o', 'u', 'b', 'l', 'e', 'Q', 'u', 'o',
    't', 'e', ';'], [0x201D]),
  (['C', 'l', 'o', 's', 'e', 'C', 'u', 'r', 'l', 'y', 'Q', 'u', 'o', 't', 'e', ';'], [0x2019]),
  (['C', 'o', 'l', 'o', 'n', ';'], [0x2237]),
  (['C', 'o', 'l', 'o', 'n', 'e', ';'], [0x2A74]),
  (['C', 'o', 'n', 'g', 'r', 'u', 'e', 'n', 't', ';'], [0x2261]),
  (['C', 'o', 'n', 'i', 'n', 't', ';'], [0x222F]),
  (['C', 'o', 'n', 't', 'o', 'u', 'r', 'I', 'n', 't', 'e', 'g', 'r', 'a', 'l', ';'], [0x222E]),
  (['C', 'o', 'p', 'f', ';'], [0x2102]),
  (['C', 'o', 'p', 'r', 'o', 'd', 'u', 'c', 't', ';'], [0x2210]),
  (['C', 'o', 'u', 'n', 't', 'e', 'r', 'C', 'l', 'o', 'c', 'k', 'w', 'i', 's', 'e', 'C', 'o', 'n',
    't', 'o', 'u', 'r', 'I', 'n', 't', 'e', 'g', 'r', 'a', 'l', ';'], [0x2233]),
  (['C', 'r', 'o', 's', 's', ';'], [0x2A2F]),
  (['C', 's', 'c', 'r', ';'], [0x1D49E]),
  (['C', 'u', 'p', ';'], [0x22D3]),
  (['C', 'u', 'p', 'C', 'a', 'p', ';'], [0x224D])]

/-- The names that start with `D`. -/
def capitalD : List (List Char × Text) := [
  (['D', 'D', ';'], [0x2145]),
  (['D', 'D', 'o', 't', 'r', 'a', 'h', 'd', ';'], [0x2911]),
  (['D', 'J', 'c', 'y', ';'], [0x402]),
  (['D', 'S', 'c', 'y', ';'], [0x405]),
  (['D', 'Z', 'c', 'y', ';'], [0x40F]),
  (['D', 'a', 'g', 'g', 'e', 'r', ';'], [0x2021]),
  (['D', 'a', 'r', 'r', ';'], [0x21A1]),
  (['D', 'a', 's', 'h', 'v', ';'], [0x2AE4]),
  (['D', 'c', 'a', 'r', 'o', 'n', ';'], [0x10E]),
  (['D', 'c', 'y', ';'], [0x414]),
  (['D', 'e', 'l', ';'], [0x2207]),
  (['D', 'e', 'l', 't', 'a', ';'], [0x394]),
  (['D', 'f', 'r', ';'], [0x1D507]),
  (['D', 'i', 'a', 'c', 'r', 'i', 't', 'i', 'c', 'a', 'l', 'A', 'c', 'u', 't', 'e', ';'], [0xB4]),
  (['D', 'i', 'a', 'c', 'r', 'i', 't', 'i', 'c', 'a', 'l', 'D', 'o', 't', ';'], [0x2D9]),
  (['D', 'i', 'a', 'c', 'r', 'i', 't', 'i', 'c', 'a', 'l', 'D', 'o', 'u', 'b', 'l', 'e', 'A', 'c',
    'u', 't', 'e', ';'], [0x2DD]),
  (['D', 'i', 'a', 'c', 'r', 'i', 't', 'i', 'c', 'a', 'l', 'G', 'r', 'a', 'v', 'e', ';'], [0x60]),
  (['D', 'i', 'a', 'c', 'r', 'i', 't', 'i', 'c', 'a', 'l', 'T', 'i', 'l', 'd', 'e', ';'], [0x2DC]),
  (['D', 'i', 'a', 'm', 'o', 'n', 'd', ';'], [0x22C4]),
  (['D', 'i', 'f', 'f', 'e', 'r', 'e', 'n', 't', 'i', 'a', 'l', 'D', ';'], [0x2146]),
  (['D', 'o', 'p', 'f', ';'], [0x1D53B]),
  (['D', 'o', 't', ';'], [0xA8]),
  (['D', 'o', 't', 'D', 'o', 't', ';'], [0x20DC]),
  (['D', 'o', 't', 'E', 'q', 'u', 'a', 'l', ';'], [0x2250]),
  (['D', 'o', 'u', 'b', 'l', 'e', 'C', 'o', 'n', 't', 'o', 'u', 'r', 'I', 'n', 't', 'e', 'g', 'r',
    'a', 'l', ';'], [0x222F]),
  (['D', 'o', 'u', 'b', 'l', 'e', 'D', 'o', 't', ';'], [0xA8]),
  (['D', 'o', 'u', 'b', 'l', 'e', 'D', 'o', 'w', 'n', 'A', 'r', 'r', 'o', 'w', ';'], [0x21D3]),
  (['D', 'o', 'u', 'b', 'l', 'e', 'L', 'e', 'f', 't', 'A', 'r', 'r', 'o', 'w', ';'], [0x21D0]),
  (['D', 'o', 'u', 'b', 'l', 'e', 'L', 'e', 'f', 't', 'R', 'i', 'g', 'h', 't', 'A', 'r', 'r', 'o',
    'w', ';'], [0x21D4]),
  (['D', 'o', 'u', 'b', 'l', 'e', 'L', 'e', 'f', 't', 'T', 'e', 'e', ';'], [0x2AE4]),
  (['D', 'o', 'u', 'b', 'l', 'e', 'L', 'o', 'n', 'g', 'L', 'e', 'f', 't', 'A', 'r', 'r', 'o', 'w',
    ';'], [0x27F8]),
  (['D', 'o', 'u', 'b', 'l', 'e', 'L', 'o', 'n', 'g', 'L', 'e', 'f', 't', 'R', 'i', 'g', 'h', 't',
    'A', 'r', 'r', 'o', 'w', ';'], [0x27FA]),
  (['D', 'o', 'u', 'b', 'l', 'e', 'L', 'o', 'n', 'g', 'R', 'i', 'g', 'h', 't', 'A', 'r', 'r', 'o',
    'w', ';'], [0x27F9]),
  (['D', 'o', 'u', 'b', 'l', 'e', 'R', 'i', 'g', 'h', 't', 'A', 'r', 'r', 'o', 'w', ';'],
    [0x21D2]),
  (['D', 'o', 'u', 'b', 'l', 'e', 'R', 'i', 'g', 'h', 't', 'T', 'e', 'e', ';'], [0x22A8]),
  (['D', 'o', 'u', 'b', 'l', 'e', 'U', 'p', 'A', 'r', 'r', 'o', 'w', ';'], [0x21D1]),
  (['D', 'o', 'u', 'b', 'l', 'e', 'U', 'p', 'D', 'o', 'w', 'n', 'A', 'r', 'r', 'o', 'w', ';'],
    [0x21D5]),
  (['D', 'o', 'u', 'b', 'l', 'e', 'V', 'e', 'r', 't', 'i', 'c', 'a', 'l', 'B', 'a', 'r', ';'],
    [0x2225]),
  (['D', 'o', 'w', 'n', 'A', 'r', 'r', 'o', 'w', ';'], [0x2193]),
  (['D', 'o', 'w', 'n', 'A', 'r', 'r', 'o', 'w', 'B', 'a', 'r', ';'], [0x2913]),
  (['D', 'o', 'w', 'n', 'A', 'r', 'r', 'o', 'w', 'U', 'p', 'A', 'r', 'r', 'o', 'w', ';'],
    [0x21F5]),
  (['D', 'o', 'w', 'n', 'B', 'r', 'e', 'v', 'e', ';'], [0x311]),
  (['D', 'o', 'w', 'n', 'L', 'e', 'f', 't', 'R', 'i', 'g', 'h', 't', 'V', 'e', 'c', 't', 'o', 'r',
    ';'], [0x2950]),
  (['D', 'o', 'w', 'n', 'L', 'e', 'f', 't', 'T', 'e', 'e', 'V', 'e', 'c', 't', 'o', 'r', ';'],
    [0x295E]),
  (['D', 'o', 'w', 'n', 'L', 'e', 'f', 't', 'V', 'e', 'c', 't', 'o', 'r', ';'], [0x21BD]),
  (['D', 'o', 'w', 'n', 'L', 'e', 'f', 't', 'V', 'e', 'c', 't', 'o', 'r', 'B', 'a', 'r', ';'],
    [0x2956]),
  (['D', 'o', 'w', 'n', 'R', 'i', 'g', 'h', 't', 'T', 'e', 'e', 'V', 'e', 'c', 't', 'o', 'r',
    ';'], [0x295F]),
  (['D', 'o', 'w', 'n', 'R', 'i', 'g', 'h', 't', 'V', 'e', 'c', 't', 'o', 'r', ';'], [0x21C1]),
  (['D', 'o', 'w', 'n', 'R', 'i', 'g', 'h', 't', 'V', 'e', 'c', 't', 'o', 'r', 'B', 'a', 'r',
    ';'], [0x2957]),
  (['D', 'o', 'w', 'n', 'T', 'e', 'e', ';'], [0x22A4]),
  (['D', 'o', 'w', 'n', 'T', 'e', 'e', 'A', 'r', 'r', 'o', 'w', ';'], [0x21A7]),
  (['D', 'o', 'w', 'n', 'a', 'r', 'r', 'o', 'w', ';'], [0x21D3]),
  (['D', 's', 'c', 'r', ';'], [0x1D49F]),
  (['D', 's', 't', 'r', 'o', 'k', ';'], [0x110])]

/-- The names that start with `E`. -/
def capitalE : List (List Char × Text) := [
  (['E', 'N', 'G', ';'], [0x14A]),
  (['E', 'T', 'H'], [0xD0]),
  (['E', 'T', 'H', ';'], [0xD0]),
  (['E', 'a', 'c', 'u', 't', 'e'], [0xC9]),
  (['E', 'a', 'c', 'u', 't', 'e', ';'], [0xC9]),
  (['E', 'c', 'a', 'r', 'o', 'n', ';'], [0x11A]),
  (['E', 'c', 'i', 'r', 'c'], [0xCA]),
  (['E', 'c', 'i', 'r', 'c', ';'], [0xCA]),
  (['E', 'c', 'y', ';'], [0x42D]),
  (['E', 'd', 'o', 't', ';'], [0x116]),
  (['E', 'f', 'r', ';'], [0x1D508]),
  (['E', 'g', 'r', 'a', 'v', 'e'], [0xC8]),
  (['E', 'g', 'r', 'a', 'v', 'e', ';'], [0xC8]),
  (['E', 'l', 'e', 'm', 'e', 'n', 't', ';'], [0x2208]),
  (['E', 'm', 'a', 'c', 'r', ';'], [0x112]),
  (['E', 'm', 'p', 't', 'y', 'S', 'm', 'a', 'l', 'l', 'S', 'q', 'u', 'a', 'r', 'e', ';'],
    [0x25FB]),
  (['E', 'm', 'p', 't', 'y', 'V', 'e', 'r', 'y', 'S', 'm', 'a', 'l', 'l', 'S', 'q', 'u', 'a', 'r',
    'e', ';'], [0x25AB]),
  (['E', 'o', 'g', 'o', 'n', ';'], [0x118]),
  (['E', 'o', 'p', 'f', ';'], [0x1D53C]),
  (['E', 'p', 's', 'i', 'l', 'o', 'n', ';'], [0x395]),
  (['E', 'q', 'u', 'a', 'l', ';'], [0x2A75]),
  (['E', 'q', 'u', 'a', 'l', 'T', 'i', 'l', 'd', 'e', ';'], [0x2242]),
  (['E', 'q', 'u', 'i', 'l', 'i', 'b', 'r', 'i', 'u', 'm', ';'], [0x21CC]),
  (['E', 's', 'c', 'r', ';'], [0x2130]),
  (['E', 's', 'i', 'm', ';'], [0x2A73]),
  (['E', 't', 'a', ';'], [0x397]),
  (['E', 'u', 'm', 'l'], [0xCB]),
  (['E', 'u', 'm', 'l', ';'], [0xCB]),
  (['E', 'x', 'i', 's', 't', 's', ';'], [0x2203]),
  (['E', 'x', 'p', 'o', 'n', 'e', 'n', 't', 'i', 'a', 'l', 'E', ';'], [0x2147])]

/-- The names that start with `F`. -/
def capitalF : List (List Char × Text) := [
  (['F', 'c', 'y', ';'], [0x424]),
  (['F', 'f', 'r', ';'], [0x1D509]),
  (['F', 'i', 'l', 'l', 'e', 'd', 'S', 'm', 'a', 'l', 'l', 'S', 'q', 'u', 'a', 'r', 'e', ';'],
    [0x25FC]),
  (['F', 'i', 'l', 'l', 'e', 'd', 'V', 'e', 'r', 'y', 'S', 'm', 'a', 'l', 'l', 'S', 'q', 'u', 'a',
    'r', 'e', ';'], [0x25AA]),
  (['F', 'o', 'p', 'f', ';'], [0x1D53D]),
  (['F', 'o', 'r', 'A', 'l', 'l', ';'], [0x2200]),
  (['F', 'o', 'u', 'r', 'i', 'e', 'r', 't', 'r', 'f', ';'], [0x2131]),
  (['F', 's', 'c', 'r', ';'], [0x2131])]

/-- The names that start with `G`. -/
def capitalG : List (List Char × Text) := [
  (['G', 'J', 'c', 'y', ';'], [0x403]),
  (['G', 'T'], [0x3E]),
  (['G', 'T', ';'], [0x3E]),
  (['G', 'a', 'm', 'm', 'a', ';'], [0x393]),
  (['G', 'a', 'm', 'm', 'a', 'd', ';'], [0x3DC]),
  (['G', 'b', 'r', 'e', 'v', 'e', ';'], [0x11E]),
  (['G', 'c', 'e', 'd', 'i', 'l', ';'], [0x122]),
  (['G', 'c', 'i', 'r', 'c', ';'], [0x11C]),
  (['G', 'c', 'y', ';'], [0x413]),
  (['G', 'd', 'o', 't', ';'], [0x120]),
  (['G', 'f', 'r', ';'], [0x1D50A]),
  (['G', 'g', ';'], [0x22D9]),
  (['G', 'o', 'p', 'f', ';'], [0x1D53E]),
  (['G', 'r', 'e', 'a', 't', 'e', 'r', 'E', 'q', 'u', 'a', 'l', ';'], [0x2265]),
  (['G', 'r', 'e', 'a', 't', 'e', 'r', 'E', 'q', 'u', 'a', 'l', 'L', 'e', 's', 's', ';'],
    [0x22DB]),
  (['G', 'r', 'e', 'a', 't', 'e', 'r', 'F', 'u', 'l', 'l', 'E', 'q', 'u', 'a', 'l', ';'],
    [0x2267]),
  (['G', 'r', 'e', 'a', 't', 'e', 'r', 'G', 'r', 'e', 'a', 't', 'e', 'r', ';'], [0x2AA2]),
  (['G', 'r', 'e', 'a', 't', 'e', 'r', 'L', 'e', 's', 's', ';'], [0x2277]),
  (['G', 'r', 'e', 'a', 't', 'e', 'r', 'S', 'l', 'a', 'n', 't', 'E', 'q', 'u', 'a', 'l', ';'],
    [0x2A7E]),
  (['G', 'r', 'e', 'a', 't', 'e', 'r', 'T', 'i', 'l', 'd', 'e', ';'], [0x2273]),
  (['G', 's', 'c', 'r', ';'], [0x1D4A2]),
  (['G', 't', ';'], [0x226B])]

/-- The names that start with `H`. -/
def capitalH : List (List Char × Text) := [
  (['H', 'A', 'R', 'D', 'c', 'y', ';'], [0x42A]),
  (['H', 'a', 'c', 'e', 'k', ';'], [0x2C7]),
  (['H', 'a', 't', ';'], [0x5E]),
  (['H', 'c', 'i', 'r', 'c', ';'], [0x124]),
  (['H', 'f', 'r', ';'], [0x210C]),
  (['H', 'i', 'l', 'b', 'e', 'r', 't', 'S', 'p', 'a', 'c', 'e', ';'], [0x210B]),
  (['H', 'o', 'p', 'f', ';'], [0x210D]),
  (['H', 'o', 'r', 'i', 'z', 'o', 'n', 't', 'a', 'l', 'L', 'i', 'n', 'e', ';'], [0x2500]),
  (['H', 's', 'c', 'r', ';'], [0x210B]),
  (['H', 's', 't', 'r', 'o', 'k', ';'], [0x126]),
  (['H', 'u', 'm', 'p', 'D', 'o', 'w', 'n', 'H', 'u', 'm', 'p', ';'], [0x224E]),
  (['H', 'u', 'm', 'p', 'E', 'q', 'u', 'a', 'l', ';'], [0x224F])]

/-- The names that start with `I`. -/
def capitalI : List (List Char × Text) := [
  (['I', 'E', 'c', 'y', ';'], [0x415]),
  (['I', 'J', 'l', 'i', 'g', ';'], [0x132]),
  (['I', 'O', 'c', 'y', ';'], [0x401]),
  (['I', 'a', 'c', 'u', 't', 'e'], [0xCD]),
  (['I', 'a', 'c', 'u', 't', 'e', ';'], [0xCD]),
  (['I', 'c', 'i', 'r', 'c'], [0xCE]),
  (['I', 'c', 'i', 'r', 'c', ';'], [0xCE]),
  (['I', 'c', 'y', ';'], [0x418]),
  (['I', 'd', 'o', 't', ';'], [0x130]),
  (['I', 'f', 'r', ';'], [0x2111]),
  (['I', 'g', 'r', 'a', 'v', 'e'], [0xCC]),
  (['I', 'g', 'r', 'a', 'v', 'e', ';'], [0xCC]),
  (['I', 'm', ';'], [0x2111]),
  (['I', 'm', 'a', 'c', 'r', ';'], [0x12A]),
  (['I', 'm', 'a', 'g', 'i', 'n', 'a', 'r', 'y', 'I', ';'], [0x2148]),
  (['I', 'm', 'p', 'l', 'i', 'e', 's', ';'], [0x21D2]),
  (['I', 'n', 't', ';'], [0x222C]),
  (['I', 'n', 't', 'e', 'g', 'r', 'a', 'l', ';'], [0x222B]),
  (['I', 'n', 't', 'e', 'r', 's', 'e', 'c', 't', 'i', 'o', 'n', ';'], [0x22C2]),
  (['I', 'n', 'v', 'i', 's', 'i', 'b', 'l', 'e', 'C', 'o', 'm', 'm', 'a', ';'], [0x2063]),
  (['I', 'n', 'v', 'i', 's', 'i', 'b', 'l', 'e', 'T', 'i', 'm', 'e', 's', ';'], [0x2062]),
  (['I', 'o', 'g', 'o', 'n', ';'], [0x12E]),
  (['I', 'o', 'p', 'f', ';'], [0x1D540]),
  (['I', 'o', 't', 'a', ';'], [0x399]),
  (['I', 's', 'c', 'r', ';'], [0x2110]),
  (['I', 't', 'i', 'l', 'd', 'e', ';'], [0x128]),
  (['I', 'u', 'k', 'c', 'y', ';'], [0x406]),
  (['I', 'u', 'm', 'l'], [0xCF]),
  (['I', 'u', 'm', 'l', ';'], [0xCF])]

/-- The names that start with `J`. -/
def capitalJ : List (List Char × Text) := [
  (['J', 'c', 'i', 'r', 'c', ';'], [0x134]),
  (['J', 'c', 'y', ';'], [0x419]),
  (['J', 'f', 'r', ';'], [0x1D50D]),
  (['J', 'o', 'p', 'f', ';'], [0x1D541]),
  (['J', 's', 'c', 'r', ';'], [0x1D4A5]),
  (['J', 's', 'e', 'r', 'c', 'y', ';'], [0x408]),
  (['J', 'u', 'k', 'c', 'y', ';'], [0x404])]

/-- The names that start with `K`. -/
def capitalK : List (List Char × Text) := [
  (['K', 'H', 'c', 'y', ';'], [0x425]),
  (['K', 'J', 'c', 'y', ';'], [0x40C]),
  (['K', 'a', 'p', 'p', 'a', ';'], [0x39A]),
  (['K', 'c', 'e', 'd', 'i', 'l', ';'], [0x136]),
  (['K', 'c', 'y', ';'], [0x41A]),
  (['K', 'f', 'r', ';'], [0x1D50E]),
  (['K', 'o', 'p', 'f', ';'], [0x1D542]),
  (['K', 's', 'c', 'r', ';'], [0x1D4A6])]

/-- The names that start with `L`. -/
def capitalL : List (List Char × Text) := [
  (['L', 'J', 'c', 'y', ';'], [0x409]),
  (['L', 'T'], [0x3C]),
  (['L', 'T', ';'], [0x3C]),
  (['L', 'a', 'c', 'u', 't', 'e', ';'], [0x139]),
  (['L', 'a', 'm', 'b', 'd', 'a', ';'], [0x39B]),
  (['L', 'a', 'n', 'g', ';'], [0x27EA]),
  (['L', 'a', 'p', 'l', 'a', 'c', 'e', 't', 'r', 'f', ';'], [0x2112]),
  (['L', 'a', 'r', 'r', ';'], [0x219E]),
  (['L', 'c', 'a', 'r', 'o', 'n', ';'], [0x13D]),
  (['L', 'c', 'e', 'd', 'i', 'l', ';'], [0x13B]),
  (['L', 'c', 'y', ';'], [0x41B]),
  (['L', 'e', 'f', 't', 'A', 'n', 'g', 'l', 'e', 'B', 'r', 'a', 'c', 'k', 'e', 't', ';'],
    [0x27E8]),
  (['L', 'e', 'f', 't', 'A', 'r', 'r', 'o', 'w', ';'], [0x2190]),
  (['L', 'e', 'f', 't', 'A', 'r', 'r', 'o', 'w', 'B', 'a', 'r', ';'], [0x21E4]),
  (['L', 'e', 'f', 't', 'A', 'r', 'r', 'o', 'w', 'R', 'i', 'g', 'h', 't', 'A', 'r', 'r', 'o', 'w',
    ';'], [0x21C6]),
  (['L', 'e', 'f', 't', 'C', 'e', 'i', 'l', 'i', 'n', 'g', ';'], [0x2308]),
  (['L', 'e', 'f', 't', 'D', 'o', 'u', 'b', 'l', 'e', 'B', 'r', 'a', 'c', 'k', 'e', 't', ';'],
    [0x27E6]),
  (['L', 'e', 'f', 't', 'D', 'o', 'w', 'n', 'T', 'e', 'e', 'V', 'e', 'c', 't', 'o', 'r', ';'],
    [0x2961]),
  (['L', 'e', 'f', 't', 'D', 'o', 'w', 'n', 'V', 'e', 'c', 't', 'o', 'r', ';'], [0x21C3]),
  (['L', 'e', 'f', 't', 'D', 'o', 'w', 'n', 'V', 'e', 'c', 't', 'o', 'r', 'B', 'a', 'r', ';'],
    [0x2959]),
  (['L', 'e', 'f', 't', 'F', 'l', 'o', 'o', 'r', ';'], [0x230A]),
  (['L', 'e', 'f', 't', 'R', 'i', 'g', 'h', 't', 'A', 'r', 'r', 'o', 'w', ';'], [0x2194]),
  (['L', 'e', 'f', 't', 'R', 'i', 'g', 'h', 't', 'V', 'e', 'c', 't', 'o', 'r', ';'], [0x294E]),
  (['L', 'e', 'f', 't', 'T', 'e', 'e', ';'], [0x22A3]),
  (['L', 'e', 'f', 't', 'T', 'e', 'e', 'A', 'r', 'r', 'o', 'w', ';'], [0x21A4]),
  (['L', 'e', 'f', 't', 'T', 'e', 'e', 'V', 'e', 'c', 't', 'o', 'r', ';'], [0x295A]),
  (['L', 'e', 'f', 't', 'T', 'r', 'i', 'a', 'n', 'g', 'l', 'e', ';'], [0x22B2]),
  (['L', 'e', 'f', 't', 'T', 'r', 'i', 'a', 'n', 'g', 'l', 'e', 'B', 'a', 'r', ';'], [0x29CF]),
  (['L', 'e', 'f', 't', 'T', 'r', 'i', 'a', 'n', 'g', 'l', 'e', 'E', 'q', 'u', 'a', 'l', ';'],
    [0x22B4]),
  (['L', 'e', 'f', 't', 'U', 'p', 'D', 'o', 'w', 'n', 'V', 'e', 'c', 't', 'o', 'r', ';'],
    [0x2951]),
  (['L', 'e', 'f', 't', 'U', 'p', 'T', 'e', 'e', 'V', 'e', 'c', 't', 'o', 'r', ';'], [0x2960]),
  (['L', 'e', 'f', 't', 'U', 'p', 'V', 'e', 'c', 't', 'o', 'r', ';'], [0x21BF]),
  (['L', 'e', 'f', 't', 'U', 'p', 'V', 'e', 'c', 't', 'o', 'r', 'B', 'a', 'r', ';'], [0x2958]),
  (['L', 'e', 'f', 't', 'V', 'e', 'c', 't', 'o', 'r', ';'], [0x21BC]),
  (['L', 'e', 'f', 't', 'V', 'e', 'c', 't', 'o', 'r', 'B', 'a', 'r', ';'], [0x2952]),
  (['L', 'e', 'f', 't', 'a', 'r', 'r', 'o', 'w', ';'], [0x21D0]),
  (['L', 'e', 'f', 't', 'r', 'i', 'g', 'h', 't', 'a', 'r', 'r', 'o', 'w', ';'], [0x21D4]),
  (['L', 'e', 's', 's', 'E', 'q', 'u', 'a', 'l', 'G', 'r', 'e', 'a', 't', 'e', 'r', ';'],
    [0x22DA]),
  (['L', 'e', 's', 's', 'F', 'u', 'l', 'l', 'E', 'q', 'u', 'a', 'l', ';'], [0x2266]),
  (['L', 'e', 's', 's', 'G', 'r', 'e', 'a', 't', 'e', 'r', ';'], [0x2276]),
  (['L', 'e', 's', 's', 'L', 'e', 's', 's', ';'], [0x2AA1]),
  (['L', 'e', 's', 's', 'S', 'l', 'a', 'n', 't', 'E', 'q', 'u', 'a', 'l', ';'], [0x2A7D]),
  (['L', 'e', 's', 's', 'T', 'i', 'l', 'd', 'e', ';'], [0x2272]),
  (['L', 'f', 'r', ';'], [0x1D50F]),
  (['L', 'l', ';'], [0x22D8]),
  (['L', 'l', 'e', 'f', 't', 'a', 'r', 'r', 'o', 'w', ';'], [0x21DA]),
  (['L', 'm', 'i', 'd', 'o', 't', ';'], [0x13F]),
  (['L', 'o', 'n', 'g', 'L', 'e', 'f', 't', 'A', 'r', 'r', 'o', 'w', ';'], [0x27F5]),
  (['L', 'o', 'n', 'g', 'L', 'e', 'f', 't', 'R', 'i', 'g', 'h', 't', 'A', 'r', 'r', 'o', 'w',
    ';'], [0x27F7]),
  (['L', 'o', 'n', 'g', 'R', 'i', 'g', 'h', 't', 'A', 'r', 'r', 'o', 'w', ';'], [0x27F6]),
  (['L', 'o', 'n', 'g', 'l', 'e', 'f', 't', 'a', 'r', 'r', 'o', 'w', ';'], [0x27F8]),
  (['L', 'o', 'n', 'g', 'l', 'e', 'f', 't', 'r', 'i', 'g', 'h', 't', 'a', 'r', 'r', 'o', 'w',
    ';'], [0x27FA]),
  (['L', 'o', 'n', 'g', 'r', 'i', 'g', 'h', 't', 'a', 'r', 'r', 'o', 'w', ';'], [0x27F9]),
  (['L', 'o', 'p', 'f', ';'], [0x1D543]),
  (['L', 'o', 'w', 'e', 'r', 'L', 'e', 'f', 't', 'A', 'r', 'r', 'o', 'w', ';'], [0x2199]),
  (['L', 'o', 'w', 'e', 'r', 'R', 'i', 'g', 'h', 't', 'A', 'r', 'r', 'o', 'w', ';'], [0x2198]),
  (['L', 's', 'c', 'r', ';'], [0x2112]),
  (['L', 's', 'h', ';'], [0x21B0]),
  (['L', 's', 't', 'r', 'o', 'k', ';'], [0x141]),
  (['L', 't', ';'], [0x226A])]

/-- The names that start with `M`. -/
def capitalM : List (List Char × Text) := [
  (['M', 'a', 'p', ';'], [0x2905]),
  (['M', 'c', 'y', ';'], [0x41C]),
  (['M', 'e', 'd', 'i', 'u', 'm', 'S', 'p', 'a', 'c', 'e', ';'], [0x205F]),
  (['M', 'e', 'l', 'l', 'i', 'n', 't', 'r', 'f', ';'], [0x2133]),
  (['M', 'f', 'r', ';'], [0x1D510]),
  (['M', 'i', 'n', 'u', 's', 'P', 'l', 'u', 's', ';'], [0x2213]),
  (['M', 'o', 'p', 'f', ';'], [0x1D544]),
  (['M', 's', 'c', 'r', ';'], [0x2133]),
  (['M', 'u', ';'], [0x39C])]

/-- The names that start with `N`. -/
def capitalN : List (List Char × Text) := [
  (['N', 'J', 'c', 'y', ';'], [0x40A]),
  (['N', 'a', 'c', 'u', 't', 'e', ';'], [0x143]),
  (['N', 'c', 'a', 'r', 'o', 'n', ';'], [0x147]),
  (['N', 'c', 'e', 'd', 'i', 'l', ';'], [0x145]),
  (['N', 'c', 'y', ';'], [0x41D]),
  (['N', 'e', 'g', 'a', 't', 'i', 'v', 'e', 'M', 'e', 'd', 'i', 'u', 'm', 'S', 'p', 'a', 'c', 'e',
    ';'], [0x200B]),
  (['N', 'e', 'g', 'a', 't', 'i', 'v', 'e', 'T', 'h', 'i', 'c', 'k', 'S', 'p', 'a', 'c', 'e',
    ';'], [0x200B]),
  (['N', 'e', 'g', 'a', 't', 'i', 'v', 'e', 'T', 'h', 'i', 'n', 'S', 'p', 'a', 'c', 'e', ';'],
    [0x200B]),
  (['N', 'e', 'g', 'a', 't', 'i', 'v', 'e', 'V', 'e', 'r', 'y', 'T', 'h', 'i', 'n', 'S', 'p', 'a',
    'c', 'e', ';'], [0x200B]),
  (['N', 'e', 's', 't', 'e', 'd', 'G', 'r', 'e', 'a', 't', 'e', 'r', 'G', 'r', 'e', 'a', 't', 'e',
    'r', ';'], [0x226B]),
  (['N', 'e', 's', 't', 'e', 'd', 'L', 'e', 's', 's', 'L', 'e', 's', 's', ';'], [0x226A]),
  (['N', 'e', 'w', 'L', 'i', 'n', 'e', ';'], [0xA]),
  (['N', 'f', 'r', ';'], [0x1D511]),
  (['N', 'o', 'B', 'r', 'e', 'a', 'k', ';'], [0x2060]),
  (['N', 'o', 'n', 'B', 'r', 'e', 'a', 'k', 'i', 'n', 'g', 'S', 'p', 'a', 'c', 'e', ';'], [0xA0]),
  (['N', 'o', 'p', 'f', ';'], [0x2115]),
  (['N', 'o', 't', ';'], [0x2AEC]),
  (['N', 'o', 't', 'C', 'o', 'n', 'g', 'r', 'u', 'e', 'n', 't', ';'], [0x2262]),
  (['N', 'o', 't', 'C', 'u', 'p', 'C', 'a', 'p', ';'], [0x226D]),
  (['N', 'o', 't', 'D', 'o', 'u', 'b', 'l', 'e', 'V', 'e', 'r', 't', 'i', 'c', 'a', 'l', 'B', 'a',
    'r', ';'], [0x2226]),
  (['N', 'o', 't', 'E', 'l', 'e', 'm', 'e', 'n', 't', ';'], [0x2209]),
  (['N', 'o', 't', 'E', 'q', 'u', 'a', 'l', ';'], [0x2260]),
  (['N', 'o', 't', 'E', 'q', 'u', 'a', 'l', 'T', 'i', 'l', 'd', 'e', ';'], [0x2242, 0x338]),
  (['N', 'o', 't', 'E', 'x', 'i', 's', 't', 's', ';'], [0x2204]),
  (['N', 'o', 't', 'G', 'r', 'e', 'a', 't', 'e', 'r', ';'], [0x226F]),
  (['N', 'o', 't', 'G', 'r', 'e', 'a', 't', 'e', 'r', 'E', 'q', 'u', 'a', 'l', ';'], [0x2271]),
  (['N', 'o', 't', 'G', 'r', 'e', 'a', 't', 'e', 'r', 'F', 'u', 'l', 'l', 'E', 'q', 'u', 'a', 'l',
    ';'], [0x2267, 0x338]),
  (['N', 'o', 't', 'G', 'r', 'e', 'a', 't', 'e', 'r', 'G', 'r', 'e', 'a', 't', 'e', 'r', ';'],
    [0x226B, 0x338]),
  (['N', 'o', 't', 'G', 'r', 'e', 'a', 't', 'e', 'r', 'L', 'e', 's', 's', ';'], [0x2279]),
  (['N', 'o', 't', 'G', 'r', 'e', 'a', 't', 'e', 'r', 'S', 'l', 'a', 'n', 't', 'E', 'q', 'u', 'a',
    'l', ';'], [0x2A7E, 0x338]),
  (['N', 'o', 't', 'G', 'r', 'e', 'a', 't', 'e', 'r', 'T', 'i', 'l', 'd', 'e', ';'], [0x2275]),
  (['N', 'o', 't', 'H', 'u', 'm', 'p', 'D', 'o', 'w', 'n', 'H', 'u', 'm', 'p', ';'], [0x224E,
    0x338]),
  (['N', 'o', 't', 'H', 'u', 'm', 'p', 'E', 'q', 'u', 'a', 'l', ';'], [0x224F, 0x338]),
  (['N', 'o', 't', 'L', 'e', 'f', 't', 'T', 'r', 'i', 'a', 'n', 'g', 'l', 'e', ';'], [0x22EA]),
  (['N', 'o', 't', 'L', 'e', 'f', 't', 'T', 'r', 'i', 'a', 'n', 'g', 'l', 'e', 'B', 'a', 'r',
    ';'], [0x29CF, 0x338]),
  (['N', 'o', 't', 'L', 'e', 'f', 't', 'T', 'r', 'i', 'a', 'n', 'g', 'l', 'e', 'E', 'q', 'u', 'a',
    'l', ';'], [0x22EC]),
  (['N', 'o', 't', 'L', 'e', 's', 's', ';'], [0x226E]),
  (['N', 'o', 't', 'L', 'e', 's', 's', 'E', 'q', 'u', 'a', 'l', ';'], [0x2270]),
  (['N', 'o', 't', 'L', 'e', 's', 's', 'G', 'r', 'e', 'a', 't', 'e', 'r', ';'], [0x2278]),
  (['N', 'o', 't', 'L', 'e', 's', 's', 'L', 'e', 's', 's', ';'], [0x226A, 0x338]),
  (['N', 'o', 't', 'L', 'e', 's', 's', 'S', 'l', 'a', 'n', 't', 'E', 'q', 'u', 'a', 'l', ';'],
    [0x2A7D, 0x338]),
  (['N', 'o', 't', 'L', 'e', 's', 's', 'T', 'i', 'l', 'd', 'e', ';'], [0x2274]),
  (['N', 'o', 't', 'N', 'e', 's', 't', 'e', 'd', 'G', 'r', 'e', 'a', 't', 'e', 'r', 'G', 'r', 'e',
    'a', 't', 'e', 'r', ';'], [0x2AA2, 0x338]),
  (['N', 'o', 't', 'N', 'e', 's', 't', 'e', 'd', 'L', 'e', 's', 's', 'L', 'e', 's', 's', ';'],
    [0x2AA1, 0x338]),
  (['N', 'o', 't', 'P', 'r', 'e', 'c', 'e', 'd', 'e', 's', ';'], [0x2280]),
  (['N', 'o', 't', 'P', 'r', 'e', 'c', 'e', 'd', 'e', 's', 'E', 'q', 'u', 'a', 'l', ';'], [0x2AAF,
    0x338]),
  (['N', 'o', 't', 'P', 'r', 'e', 'c', 'e', 'd', 'e', 's', 'S', 'l', 'a', 'n', 't', 'E', 'q', 'u',
    'a', 'l', ';'], [0x22E0]),
  (['N', 'o', 't', 'R', 'e', 'v', 'e', 'r', 's', 'e', 'E', 'l', 'e', 'm', 'e', 'n', 't', ';'],
    [0x220C]),
  (['N', 'o', 't', 'R', 'i', 'g', 'h', 't', 'T', 'r', 'i', 'a', 'n', 'g', 'l', 'e', ';'],
    [0x22EB]),
  (['N', 'o', 't', 'R', 'i', 'g', 'h', 't', 'T', 'r', 'i', 'a', 'n', 'g', 'l', 'e', 'B', 'a', 'r',
    ';'], [0x29D0, 0x338]),
  (['N', 'o', 't', 'R', 'i', 'g', 'h', 't', 'T', 'r', 'i', 'a', 'n', 'g', 'l', 'e', 'E', 'q', 'u',
    'a', 'l', ';'], [0x22ED]),
  (['N', 'o', 't', 'S', 'q', 'u', 'a', 'r', 'e', 'S', 'u', 'b', 's', 'e', 't', ';'], [0x228F,
    0x338]),
  (['N', 'o', 't', 'S', 'q', 'u', 'a', 'r', 'e', 'S', 'u', 'b', 's', 'e', 't', 'E', 'q', 'u', 'a',
    'l', ';'], [0x22E2]),
  (['N', 'o', 't', 'S', 'q', 'u', 'a', 'r', 'e', 'S', 'u', 'p', 'e', 'r', 's', 'e', 't', ';'],
    [0x2290, 0x338]),
  (['N', 'o', 't', 'S', 'q', 'u', 'a', 'r', 'e', 'S', 'u', 'p', 'e', 'r', 's', 'e', 't', 'E', 'q',
    'u', 'a', 'l', ';'], [0x22E3]),
  (['N', 'o', 't', 'S', 'u', 'b', 's', 'e', 't', ';'], [0x2282, 0x20D2]),
  (['N', 'o', 't', 'S', 'u', 'b', 's', 'e', 't', 'E', 'q', 'u', 'a', 'l', ';'], [0x2288]),
  (['N', 'o', 't', 'S', 'u', 'c', 'c', 'e', 'e', 'd', 's', ';'], [0x2281]),
  (['N', 'o', 't', 'S', 'u', 'c', 'c', 'e', 'e', 'd', 's', 'E', 'q', 'u', 'a', 'l', ';'], [0x2AB0,
    0x338]),
  (['N', 'o', 't', 'S', 'u', 'c', 'c', 'e', 'e', 'd', 's', 'S', 'l', 'a', 'n', 't', 'E', 'q', 'u',
    'a', 'l', ';'], [0x22E1]),
  (['N', 'o', 't', 'S', 'u', 'c', 'c', 'e', 'e', 'd', 's', 'T', 'i', 'l', 'd', 'e', ';'], [0x227F,
    0x338]),
  (['N', 'o', 't', 'S', 'u', 'p', 'e', 'r', 's', 'e', 't', ';'], [0x2283, 0x20D2]),
  (['N', 'o', 't', 'S', 'u', 'p', 'e', 'r', 's', 'e', 't', 'E', 'q', 'u', 'a', 'l', ';'],
    [0x2289]),
  (['N', 'o', 't', 'T', 'i', 'l', 'd', 'e', ';'], [0x2241]),
  (['N', 'o', 't', 'T', 'i', 'l', 'd', 'e', 'E', 'q', 'u', 'a', 'l', ';'], [0x2244]),
  (['N', 'o', 't', 'T', 'i', 'l', 'd', 'e', 'F', 'u', 'l', 'l', 'E', 'q', 'u', 'a', 'l', ';'],
    [0x2247]),
  (['N', 'o', 't', 'T', 'i', 'l', 'd', 'e', 'T', 'i', 'l', 'd', 'e', ';'], [0x2249]),
  (['N', 'o', 't', 'V', 'e', 'r', 't', 'i', 'c', 'a', 'l', 'B', 'a', 'r', ';'], [0x2224]),
  (['N', 's', 'c', 'r', ';'], [0x1D4A9]),
  (['N', 't', 'i', 'l', 'd', 'e'], [0xD1]),
  (['N', 't', 'i', 'l', 'd', 'e', ';'], [0xD1]),
  (['N', 'u', ';'], [0x39D])]

/-- The names that start with `O`. -/
def capitalO : List (List Char × Text) := [
  (['O', 'E', 'l', 'i', 'g', ';'], [0x152]),
  (['O', 'a', 'c', 'u', 't', 'e'], [0xD3]),
  (['O', 'a', 'c', 'u', 't', 'e', ';'], [0xD3]),
  (['O', 'c', 'i', 'r', 'c'], [0xD4]),
  (['O', 'c', 'i', 'r', 'c', ';'], [0xD4]),
  (['O', 'c', 'y', ';'], [0x41E]),
  (['O', 'd', 'b', 'l', 'a', 'c', ';'], [0x150]),
  (['O', 'f', 'r', ';'], [0x1D512]),
  (['O', 'g', 'r', 'a', 'v', 'e'], [0xD2]),
  (['O', 'g', 'r', 'a', 'v', 'e', ';'], [0xD2]),
  (['O', 'm', 'a', 'c', 'r', ';'], [0x14C]),
  (['O', 'm', 'e', 'g', 'a', ';'], [0x3A9]),
  (['O', 'm', 'i', 'c', 'r', 'o', 'n', ';'], [0x39F]),
  (['O', 'o', 'p', 'f', ';'], [0x1D546]),
  (['O', 'p', 'e', 'n', 'C', 'u', 'r', 'l', 'y', 'D', 'o', 'u', 'b', 'l', 'e', 'Q', 'u', 'o', 't',
    'e', ';'], [0x201C]),
  (['O', 'p', 'e', 'n', 'C', 'u', 'r', 'l', 'y', 'Q', 'u', 'o', 't', 'e', ';'], [0x2018]),
  (['O', 'r', ';'], [0x2A54]),
  (['O', 's', 'c', 'r', ';'], [0x1D4AA]),
  (['O', 's', 'l', 'a', 's', 'h'], [0xD8]),
  (['O', 's', 'l', 'a', 's', 'h', ';'], [0xD8]),
  (['O', 't', 'i', 'l', 'd', 'e'], [0xD5]),
  (['O', 't', 'i', 'l', 'd', 'e', ';'], [0xD5]),
  (['O', 't', 'i', 'm', 'e', 's', ';'], [0x2A37]),
  (['O', 'u', 'm', 'l'], [0xD6]),
  (['O', 'u', 'm', 'l', ';'], [0xD6]),
  (['O', 'v', 'e', 'r', 'B', 'a', 'r', ';'], [0x203E]),
  (['O', 'v', 'e', 'r', 'B', 'r', 'a', 'c', 'e', ';'], [0x23DE]),
  (['O', 'v', 'e', 'r', 'B', 'r', 'a', 'c', 'k', 'e', 't', ';'], [0x23B4]),
  (['O', 'v', 'e', 'r', 'P', 'a', 'r', 'e', 'n', 't', 'h', 'e', 's', 'i', 's', ';'], [0x23DC])]

/-- The names that start with `P`. -/
def capitalP : List (List Char × Text) := [
  (['P', 'a', 'r', 't', 'i', 'a', 'l', 'D', ';'], [0x2202]),
  (['P', 'c', 'y', ';'], [0x41F]),
  (['P', 'f', 'r', ';'], [0x1D513]),
  (['P', 'h', 'i', ';'], [0x3A6]),
  (['P', 'i', ';'], [0x3A0]),
  (['P', 'l', 'u', 's', 'M', 'i', 'n', 'u', 's', ';'], [0xB1]),
  (['P', 'o', 'i', 'n', 'c', 'a', 'r', 'e', 'p', 'l', 'a', 'n', 'e', ';'], [0x210C]),
  (['P', 'o', 'p', 'f', ';'], [0x2119]),
  (['P', 'r', ';'], [0x2ABB]),
  (['P', 'r', 'e', 'c', 'e', 'd', 'e', 's', ';'], [0x227A]),
  (['P', 'r', 'e', 'c', 'e', 'd', 'e', 's', 'E', 'q', 'u', 'a', 'l', ';'], [0x2AAF]),
  (['P', 'r', 'e', 'c', 'e', 'd', 'e', 's', 'S', 'l', 'a', 'n', 't', 'E', 'q', 'u', 'a', 'l',
    ';'], [0x227C]),
  (['P', 'r', 'e', 'c', 'e', 'd', 'e', 's', 'T', 'i', 'l', 'd', 'e', ';'], [0x227E]),
  (['P', 'r', 'i', 'm', 'e', ';'], [0x2033]),
  (['P', 'r', 'o', 'd', 'u', 'c', 't', ';'], [0x220F]),
  (['P', 'r', 'o', 'p', 'o', 'r', 't', 'i', 'o', 'n', ';'], [0x2237]),
  (['P', 'r', 'o', 'p', 'o', 'r', 't', 'i', 'o', 'n', 'a', 'l', ';'], [0x221D]),
  (['P', 's', 'c', 'r', ';'], [0x1D4AB]),
  (['P', 's', 'i', ';'], [0x3A8])]

/-- The names that start with `Q`. -/
def capitalQ : List (List Char × Text) := [
  (['Q', 'U', 'O', 'T'], [0x22]),
  (['Q', 'U', 'O', 'T', ';'], [0x22]),
  (['Q', 'f', 'r', ';'], [0x1D514]),
  (['Q', 'o', 'p', 'f', ';'], [0x211A]),
  (['Q', 's', 'c', 'r', ';'], [0x1D4AC])]

/-- The names that start with `R`. -/
def capitalR : List (List Char × Text) := [
  (['R', 'B', 'a', 'r', 'r', ';'], [0x2910]),
  (['R', 'E', 'G'], [0xAE]),
  (['R', 'E', 'G', ';'], [0xAE]),
  (['R', 'a', 'c', 'u', 't', 'e', ';'], [0x154]),
  (['R', 'a', 'n', 'g', ';'], [0x27EB]),
  (['R', 'a', 'r', 'r', ';'], [0x21A0]),
  (['R', 'a', 'r', 'r', 't', 'l', ';'], [0x2916]),
  (['R', 'c', 'a', 'r', 'o', 'n', ';'], [0x158]),
  (['R', 'c', 'e', 'd', 'i', 'l', ';'], [0x156]),
  (['R', 'c', 'y', ';'], [0x420]),
  (['R', 'e', ';'], [0x211C]),
  (['R', 'e', 'v', 'e', 'r', 's', 'e', 'E', 'l', 'e', 'm', 'e', 'n', 't', ';'], [0x220B]),
  (['R', 'e', 'v', 'e', 'r', 's', 'e', 'E', 'q', 'u', 'i', 'l', 'i', 'b', 'r', 'i', 'u', 'm',
    ';'], [0x21CB]),
  (['R', 'e', 'v', 'e', 'r', 's', 'e', 'U', 'p', 'E', 'q', 'u', 'i', 'l', 'i', 'b', 'r', 'i', 'u',
    'm', ';'], [0x296F]),
  (['R', 'f', 'r', ';'], [0x211C]),
  (['R', 'h', 'o', ';'], [0x3A1]),
  (['R', 'i', 'g', 'h', 't', 'A', 'n', 'g', 'l', 'e', 'B', 'r', 'a', 'c', 'k', 'e', 't', ';'],
    [0x27E9]),
  (['R', 'i', 'g', 'h', 't', 'A', 'r', 'r', 'o', 'w', ';'], [0x2192]),
  (['R', 'i', 'g', 'h', 't', 'A', 'r', 'r', 'o', 'w', 'B', 'a', 'r', ';'], [0x21E5]),
  (['R', 'i', 'g', 'h', 't', 'A', 'r', 'r', 'o', 'w', 'L', 'e', 'f', 't', 'A', 'r', 'r', 'o', 'w',
    ';'], [0x21C4]),
  (['R', 'i', 'g', 'h', 't', 'C', 'e', 'i', 'l', 'i', 'n', 'g', ';'], [0x2309]),
  (['R', 'i', 'g', 'h', 't', 'D', 'o', 'u', 'b', 'l', 'e', 'B', 'r', 'a', 'c', 'k', 'e', 't',
    ';'], [0x27E7]),
  (['R', 'i', 'g', 'h', 't', 'D', 'o', 'w', 'n', 'T', 'e', 'e', 'V', 'e', 'c', 't', 'o', 'r',
    ';'], [0x295D]),
  (['R', 'i', 'g', 'h', 't', 'D', 'o', 'w', 'n', 'V', 'e', 'c', 't', 'o', 'r', ';'], [0x21C2]),
  (['R', 'i', 'g', 'h', 't', 'D', 'o', 'w', 'n', 'V', 'e', 'c', 't', 'o', 'r', 'B', 'a', 'r',
    ';'], [0x2955]),
  (['R', 'i', 'g', 'h', 't', 'F', 'l', 'o', 'o', 'r', ';'], [0x230B]),
  (['R', 'i', 'g', 'h', 't', 'T', 'e', 'e', ';'], [0x22A2]),
  (['R', 'i', 'g', 'h', 't', 'T', 'e', 'e', 'A', 'r', 'r', 'o', 'w', ';'], [0x21A6]),
  (['R', 'i', 'g', 'h', 't', 'T', 'e', 'e', 'V', 'e', 'c', 't', 'o', 'r', ';'], [0x295B]),
  (['R', 'i', 'g', 'h', 't', 'T', 'r', 'i', 'a', 'n', 'g', 'l', 'e', ';'], [0x22B3]),
  (['R', 'i', 'g', 'h', 't', 'T', 'r', 'i', 'a', 'n', 'g', 'l', 'e', 'B', 'a', 'r', ';'],
    [0x29D0]),
  (['R', 'i', 'g', 'h', 't', 'T', 'r', 'i', 'a', 'n', 'g', 'l', 'e', 'E', 'q', 'u', 'a', 'l',
    ';'], [0x22B5]),
  (['R', 'i', 'g', 'h', 't', 'U', 'p', 'D', 'o', 'w', 'n', 'V', 'e', 'c', 't', 'o', 'r', ';'],
    [0x294F]),
  (['R', 'i', 'g', 'h', 't', 'U', 'p', 'T', 'e', 'e', 'V', 'e', 'c', 't', 'o', 'r', ';'],
    [0x295C]),
  (['R', 'i', 'g', 'h', 't', 'U', 'p', 'V', 'e', 'c', 't', 'o', 'r', ';'], [0x21BE]),
  (['R', 'i', 'g', 'h', 't', 'U', 'p', 'V', 'e', 'c', 't', 'o', 'r', 'B', 'a', 'r', ';'],
    [0x2954]),
  (['R', 'i', 'g', 'h', 't', 'V', 'e', 'c', 't', 'o', 'r', ';'], [0x21C0]),
  (['R', 'i', 'g', 'h', 't', 'V', 'e', 'c', 't', 'o', 'r', 'B', 'a', 'r', ';'], [0x2953]),
  (['R', 'i', 'g', 'h', 't', 'a', 'r', 'r', 'o', 'w', ';'], [0x21D2]),
  (['R', 'o', 'p', 'f', ';'], [0x211D]),
  (['R', 'o', 'u', 'n', 'd', 'I', 'm', 'p', 'l', 'i', 'e', 's', ';'], [0x2970]),
  (['R', 'r', 'i', 'g', 'h', 't', 'a', 'r', 'r', 'o', 'w', ';'], [0x21DB]),
  (['R', 's', 'c', 'r', ';'], [0x211B]),
  (['R', 's', 'h', ';'], [0x21B1]),
  (['R', 'u', 'l', 'e', 'D', 'e', 'l', 'a', 'y', 'e', 'd', ';'], [0x29F4])]

/-- The names that start with `S`. -/
def capitalS : List (List Char × Text) := [
  (['S', 'H', 'C', 'H', 'c', 'y', ';'], [0x429]),
  (['S', 'H', 'c', 'y', ';'], [0x428]),
  (['S', 'O', 'F', 'T', 'c', 'y', ';'], [0x42C]),
  (['S', 'a', 'c', 'u', 't', 'e', ';'], [0x15A]),
  (['S', 'c', ';'], [0x2ABC]),
  (['S', 'c', 'a', 'r', 'o', 'n', ';'], [0x160]),
  (['S', 'c', 'e', 'd', 'i', 'l', ';'], [0x15E]),
  (['S', 'c', 'i', 'r', 'c', ';'], [0x15C]),
  (['S', 'c', 'y', ';'], [0x421]),
  (['S', 'f', 'r', ';'], [0x1D516]),
  (['S', 'h', 'o', 'r', 't', 'D', 'o', 'w', 'n', 'A', 'r', 'r', 'o', 'w', ';'], [0x2193]),
  (['S', 'h', 'o', 'r', 't', 'L', 'e', 'f', 't', 'A', 'r', 'r', 'o', 'w', ';'], [0x2190]),
  (['S', 'h', 'o', 'r', 't', 'R', 'i', 'g', 'h', 't', 'A', 'r', 'r', 'o', 'w', ';'], [0x2192]),
  (['S', 'h', 'o', 'r', 't', 'U', 'p', 'A', 'r', 'r', 'o', 'w', ';'], [0x2191]),
  (['S', 'i', 'g', 'm', 'a', ';'], [0x3A3]),
  (['S', 'm', 'a', 'l', 'l', 'C', 'i', 'r', 'c', 'l', 'e', ';'], [0x2218]),
  (['S', 'o', 'p', 'f', ';'], [0x1D54A]),
  (['S', 'q', 'r', 't', ';'], [0x221A]),
  (['S', 'q', 'u', 'a', 'r', 'e', ';'], [0x25A1]),
  (['S', 'q', 'u', 'a', 'r', 'e', 'I', 'n', 't', 'e', 'r', 's', 'e', 'c', 't', 'i', 'o', 'n',
    ';'], [0x2293]),
  (['S', 'q', 'u', 'a', 'r', 'e', 'S', 'u', 'b', 's', 'e', 't', ';'], [0x228F]),
  (['S', 'q', 'u', 'a', 'r', 'e', 'S', 'u', 'b', 's', 'e', 't', 'E', 'q', 'u', 'a', 'l', ';'],
    [0x2291]),
  (['S', 'q', 'u', 'a', 'r', 'e', 'S', 'u', 'p', 'e', 'r', 's', 'e', 't', ';'], [0x2290]),
  (['S', 'q', 'u', 'a', 'r', 'e', 'S', 'u', 'p', 'e', 'r', 's', 'e', 't', 'E', 'q', 'u', 'a', 'l',
    ';'], [0x2292]),
  (['S', 'q', 'u', 'a', 'r', 'e', 'U', 'n', 'i', 'o', 'n', ';'], [0x2294]),
  (['S', 's', 'c', 'r', ';'], [0x1D4AE]),
  (['S', 't', 'a', 'r', ';'], [0x22C6]),
  (['S', 'u', 'b', ';'], [0x22D0]),
  (['S', 'u', 'b', 's', 'e', 't', ';'], [0x22D0]),
  (['S', 'u', 'b', 's', 'e', 't', 'E', 'q', 'u', 'a', 'l', ';'], [0x2286]),
  (['S', 'u', 'c', 'c', 'e', 'e', 'd', 's', ';'], [0x227B]),
  (['S', 'u', 'c', 'c', 'e', 'e', 'd', 's', 'E', 'q', 'u', 'a', 'l', ';'], [0x2AB0]),
  (['S', 'u', 'c', 'c', 'e', 'e', 'd', 's', 'S', 'l', 'a', 'n', 't', 'E', 'q', 'u', 'a', 'l',
    ';'], [0x227D]),
  (['S', 'u', 'c', 'c', 'e', 'e', 'd', 's', 'T', 'i', 'l', 'd', 'e', ';'], [0x227F]),
  (['S', 'u', 'c', 'h', 'T', 'h', 'a', 't', ';'], [0x220B]),
  (['S', 'u', 'm', ';'], [0x2211]),
  (['S', 'u', 'p', ';'], [0x22D1]),
  (['S', 'u', 'p', 'e', 'r', 's', 'e', 't', ';'], [0x2283]),
  (['S', 'u', 'p', 'e', 'r', 's', 'e', 't', 'E', 'q', 'u', 'a', 'l', ';'], [0x2287]),
  (['S', 'u', 'p', 's', 'e', 't', ';'], [0x22D1])]

/-- The names that start with `T`. -/
def capitalT : List (List Char × Text) := [
  (['T', 'H', 'O', 'R', 'N'], [0xDE]),
  (['T', 'H', 'O', 'R', 'N', ';'], [0xDE]),
  (['T', 'R', 'A', 'D', 'E', ';'], [0x2122]),
  (['T', 'S', 'H', 'c', 'y', ';'], [0x40B]),
  (['T', 'S', 'c', 'y', ';'], [0x426]),
  (['T', 'a', 'b', ';'], [0x9]),
  (['T', 'a', 'u', ';'], [0x3A4]),
  (['T', 'c', 'a', 'r', 'o', 'n', ';'], [0x164]),
  (['T', 'c', 'e', 'd', 'i', 'l', ';'], [0x162]),
  (['T', 'c', 'y', ';'], [0x422]),
  (['T', 'f', 'r', ';'], [0x1D517]),
  (['T', 'h', 'e', 'r', 'e', 'f', 'o', 'r', 'e', ';'], [0x2234]),
  (['T', 'h', 'e', 't', 'a', ';'], [0x398]),
  (['T', 'h', 'i', 'c', 'k', 'S', 'p', 'a', 'c', 'e', ';'], [0x205F, 0x200A]),
  (['T', 'h', 'i', 'n', 'S', 'p', 'a', 'c', 'e', ';'], [0x2009]),
  (['T', 'i', 'l', 'd', 'e', ';'], [0x223C]),
  (['T', 'i', 'l', 'd', 'e', 'E', 'q', 'u', 'a', 'l', ';'], [0x2243]),
  (['T', 'i', 'l', 'd', 'e', 'F', 'u', 'l', 'l', 'E', 'q', 'u', 'a', 'l', ';'], [0x2245]),
  (['T', 'i', 'l', 'd', 'e', 'T', 'i', 'l', 'd', 'e', ';'], [0x2248]),
  (['T', 'o', 'p', 'f', ';'], [0x1D54B]),
  (['T', 'r', 'i', 'p', 'l', 'e', 'D', 'o', 't', ';'], [0x20DB]),
  (['T', 's', 'c', 'r', ';'], [0x1D4AF]),
  (['T', 's', 't', 'r', 'o', 'k', ';'], [0x166])]

/-- The names that start with `U`. -/
def capitalU : List (List Char × Text) := [
  (['U', 'a', 'c', 'u', 't', 'e'], [0xDA]),
  (['U', 'a', 'c', 'u', 't', 'e', ';'], [0xDA]),
  (['U', 'a', 'r', 'r', ';'], [0x219F]),
  (['U', 'a', 'r', 'r', 'o', 'c', 'i', 'r', ';'], [0x2949]),
  (['U', 'b', 'r', 'c', 'y', ';'], [0x40E]),
  (['U', 'b', 'r', 'e', 'v', 'e', ';'], [0x16C]),
  (['U', 'c', 'i', 'r', 'c'], [0xDB]),
  (['U', 'c', 'i', 'r', 'c', ';'], [0xDB]),
  (['U', 'c', 'y', ';'], [0x423]),
  (['U', 'd', 'b', 'l', 'a', 'c', ';'], [0x170]),
  (['U', 'f', 'r', ';'], [0x1D518]),
  (['U', 'g', 'r', 'a', 'v', 'e'], [0xD9]),
  (['U', 'g', 'r', 'a', 'v', 'e', ';'], [0xD9]),
  (['U', 'm', 'a', 'c', 'r', ';'], [0x16A]),
  (['U', 'n', 'd', 'e', 'r', 'B', 'a', 'r', ';'], [0x5F]),
  (['U', 'n', 'd', 'e', 'r', 'B', 'r', 'a', 'c', 'e', ';'], [0x23DF]),
  (['U', 'n', 'd', 'e', 'r', 'B', 'r', 'a', 'c', 'k', 'e', 't', ';'], [0x23B5]),
  (['U', 'n', 'd', 'e', 'r', 'P', 'a', 'r', 'e', 'n', 't', 'h', 'e', 's', 'i', 's', ';'],
    [0x23DD]),
  (['U', 'n', 'i', 'o', 'n', ';'], [0x22C3]),
  (['U', 'n', 'i', 'o', 'n', 'P', 'l', 'u', 's', ';'], [0x228E]),
  (['U', 'o', 'g', 'o', 'n', ';'], [0x172]),
  (['U', 'o', 'p', 'f', ';'], [0x1D54C]),
  (['U', 'p', 'A', 'r', 'r', 'o', 'w', ';'], [0x2191]),
  (['U', 'p', 'A', 'r', 'r', 'o', 'w', 'B', 'a', 'r', ';'], [0x2912]),
  (['U', 'p', 'A', 'r', 'r', 'o', 'w', 'D', 'o', 'w', 'n', 'A', 'r', 'r', 'o', 'w', ';'],
    [0x21C5]),
  (['U', 'p', 'D', 'o', 'w', 'n', 'A', 'r', 'r', 'o', 'w', ';'], [0x2195]),
  (['U', 'p', 'E', 'q', 'u', 'i', 'l', 'i', 'b', 'r', 'i', 'u', 'm', ';'], [0x296E]),
  (['U', 'p', 'T', 'e', 'e', ';'], [0x22A5]),
  (['U', 'p', 'T', 'e', 'e', 'A', 'r', 'r', 'o', 'w', ';'], [0x21A5]),
  (['U', 'p', 'a', 'r', 'r', 'o', 'w', ';'], [0x21D1]),
  (['U', 'p', 'd', 'o', 'w', 'n', 'a', 'r', 'r', 'o', 'w', ';'], [0x21D5]),
  (['U', 'p', 'p', 'e', 'r', 'L', 'e', 'f', 't', 'A', 'r', 'r', 'o', 'w', ';'], [0x2196]),
  (['U', 'p', 'p', 'e', 'r', 'R', 'i', 'g', 'h', 't', 'A', 'r', 'r', 'o', 'w', ';'], [0x2197]),
  (['U', 'p', 's', 'i', ';'], [0x3D2]),
  (['U', 'p', 's', 'i', 'l', 'o', 'n', ';'], [0x3A5]),
  (['U', 'r', 'i', 'n', 'g', ';'], [0x16E]),
  (['U', 's', 'c', 'r', ';'], [0x1D4B0]),
  (['U', 't', 'i', 'l', 'd', 'e', ';'], [0x168]),
  (['U', 'u', 'm', 'l'], [0xDC]),
  (['U', 'u', 'm', 'l', ';'], [0xDC])]

/-- The names that start with `V`. -/
def capitalV : List (List Char × Text) := [
  (['V', 'D', 'a', 's', 'h', ';'], [0x22AB]),
  (['V', 'b', 'a', 'r', ';'], [0x2AEB]),
  (['V', 'c', 'y', ';'], [0x412]),
  (['V', 'd', 'a', 's', 'h', ';'], [0x22A9]),
  (['V', 'd', 'a', 's', 'h', 'l', ';'], [0x2AE6]),
  (['V', 'e', 'e', ';'], [0x22C1]),
  (['V', 'e', 'r', 'b', 'a', 'r', ';'], [0x2016]),
  (['V', 'e', 'r', 't', ';'], [0x2016]),
  (['V', 'e', 'r', 't', 'i', 'c', 'a', 'l', 'B', 'a', 'r', ';'], [0x2223]),
  (['V', 'e', 'r', 't', 'i', 'c', 'a', 'l', 'L', 'i', 'n', 'e', ';'], [0x7C]),
  (['V', 'e', 'r', 't', 'i', 'c', 'a', 'l', 'S', 'e', 'p', 'a', 'r', 'a', 't', 'o', 'r', ';'],
    [0x2758]),
  (['V', 'e', 'r', 't', 'i', 'c', 'a', 'l', 'T', 'i', 'l', 'd', 'e', ';'], [0x2240]),
  (['V', 'e', 'r', 'y', 'T', 'h', 'i', 'n', 'S', 'p', 'a', 'c', 'e', ';'], [0x200A]),
  (['V', 'f', 'r', ';'], [0x1D519]),
  (['V', 'o', 'p', 'f', ';'], [0x1D54D]),
  (['V', 's', 'c', 'r', ';'], [0x1D4B1]),
  (['V', 'v', 'd', 'a', 's', 'h', ';'], [0x22AA])]

/-- The names that start with `W`. -/
def capitalW : List (List Char × Text) := [
  (['W', 'c', 'i', 'r', 'c', ';'], [0x174]),
  (['W', 'e', 'd', 'g', 'e', ';'], [0x22C0]),
  (['W', 'f', 'r', ';'], [0x1D51A]),
  (['W', 'o', 'p', 'f', ';'], [0x1D54E]),
  (['W', 's', 'c', 'r', ';'], [0x1D4B2])]

/-- The names that start with `X`. -/
def capitalX : List (List Char × Text) := [
  (['X', 'f', 'r', ';'], [0x1D51B]),
  (['X', 'i', ';'], [0x39E]),
  (['X', 'o', 'p', 'f', ';'], [0x1D54F]),
  (['X', 's', 'c', 'r', ';'], [0x1D4B3])]

/-- The names that start with `Y`. -/
def capitalY : List (List Char × Text) := [
  (['Y', 'A', 'c', 'y', ';'], [0x42F]),
  (['Y', 'I', 'c', 'y', ';'], [0x407]),
  (['Y', 'U', 'c', 'y', ';'], [0x42E]),
  (['Y', 'a', 'c', 'u', 't', 'e'], [0xDD]),
  (['Y', 'a', 'c', 'u', 't', 'e', ';'], [0xDD]),
  (['Y', 'c', 'i', 'r', 'c', ';'], [0x176]),
  (['Y', 'c', 'y', ';'], [0x42B]),
  (['Y', 'f', 'r', ';'], [0x1D51C]),
  (['Y', 'o', 'p', 'f', ';'], [0x1D550]),
  (['Y', 's', 'c', 'r', ';'], [0x1D4B4]),
  (['Y', 'u', 'm', 'l', ';'], [0x178])]

/-- The names that start with `Z`. -/
def capitalZ : List (List Char × Text) := [
  (['Z', 'H', 'c', 'y', ';'], [0x416]),
  (['Z', 'a', 'c', 'u', 't', 'e', ';'], [0x179]),
  (['Z', 'c', 'a', 'r', 'o', 'n', ';'], [0x17D]),
  (['Z', 'c', 'y', ';'], [0x417]),
  (['Z', 'd', 'o', 't', ';'], [0x17B]),
  (['Z', 'e', 'r', 'o', 'W', 'i', 'd', 't', 'h', 'S', 'p', 'a', 'c', 'e', ';'], [0x200B]),
  (['Z', 'e', 't', 'a', ';'], [0x396]),
  (['Z', 'f', 'r', ';'], [0x2128]),
  (['Z', 'o', 'p', 'f', ';'], [0x2124]),
  (['Z', 's', 'c', 'r', ';'], [0x1D4B5])]

/-- All names that start with a capital letter. -/
def capitalNames : List (List Char × Text) :=
  capitalA ++ capitalB ++ capitalC ++ capitalD ++ capitalE ++ capitalF ++ capitalG ++ capitalH ++
    capitalI ++ capitalJ ++ capitalK ++ capitalL ++ capitalM ++ capitalN ++ capitalO ++
    capitalP ++ capitalQ ++ capitalR ++ capitalS ++ capitalT ++ capitalU ++ capitalV ++
    capitalW ++ capitalX ++ capitalY ++ capitalZ

end TokenConformance.Reference
