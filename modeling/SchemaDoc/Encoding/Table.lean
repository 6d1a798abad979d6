/-!
Contract: the single-byte encodings that a coding comment can name, as tables.

Every table covers the upper half of the byte values; the lower half is ASCII throughout. A zero
marks a byte that stands for no character. Encodings with another lower half, and those in which two
bytes stand for one character, are left out.
-/

namespace SchemaDoc.Encoding

/-- A single-byte encoding: its own name and others, all in normal form, and the code points of the
bytes from 128 up. -/
structure ByteTable where
  name : String
  aliases : List String
  upper : List Nat

/-- Code points that follow each other. -/
def codes (first count : Nat) : List Nat := List.range' first count

/-- Bytes that stand for no character. -/
def holes (count : Nat) : List Nat := List.replicate count 0

def cp437 : ByteTable :=
  ⟨"cp437", ["437", "cspc8codepage437", "ibm437"],
    [0xc7, 0xfc, 0xe9, 0xe2, 0xe4, 0xe0, 0xe5, 0xe7, 0xea, 0xeb, 0xe8, 0xef, 0xee, 0xec, 0xc4,
        0xc5, 0xc9, 0xe6, 0xc6, 0xf4, 0xf6, 0xf2, 0xfb, 0xf9, 0xff, 0xd6, 0xdc, 0xa2, 0xa3, 0xa5,
        0x20a7, 0x192, 0xe1, 0xed, 0xf3, 0xfa, 0xf1, 0xd1, 0xaa, 0xba, 0xbf, 0x2310, 0xac, 0xbd,
        0xbc, 0xa1, 0xab, 0xbb, 0x2591, 0x2592, 0x2593, 0x2502, 0x2524, 0x2561, 0x2562, 0x2556,
        0x2555, 0x2563, 0x2551, 0x2557, 0x255d, 0x255c, 0x255b, 0x2510, 0x2514, 0x2534, 0x252c,
        0x251c, 0x2500, 0x253c, 0x255e, 0x255f, 0x255a, 0x2554, 0x2569, 0x2566, 0x2560, 0x2550,
        0x256c, 0x2567, 0x2568, 0x2564, 0x2565, 0x2559, 0x2558, 0x2552, 0x2553, 0x256b, 0x256a,
        0x2518, 0x250c, 0x2588, 0x2584, 0x258c, 0x2590, 0x2580, 0x3b1, 0xdf, 0x393, 0x3c0, 0x3a3,
        0x3c3, 0xb5, 0x3c4, 0x3a6, 0x398, 0x3a9, 0x3b4, 0x221e, 0x3c6, 0x3b5, 0x2229, 0x2261,
        0xb1, 0x2265, 0x2264, 0x2320, 0x2321, 0xf7, 0x2248, 0xb0, 0x2219, 0xb7, 0x221a, 0x207f,
        0xb2, 0x25a0, 0xa0]⟩

def cp720 : ByteTable :=
  ⟨"cp720", [],
    [0x80, 0x81, 0xe9, 0xe2, 0x84, 0xe0, 0x86, 0xe7, 0xea, 0xeb, 0xe8, 0xef, 0xee, 0x8d, 0x8e,
        0x8f, 0x90, 0x651, 0x652, 0xf4, 0xa4, 0x640, 0xfb, 0xf9, 0x621, 0x622, 0x623, 0x624,
        0xa3] ++ codes 0x625 17 ++ [0xab, 0xbb, 0x2591, 0x2592, 0x2593, 0x2502, 0x2524, 0x2561,
        0x2562, 0x2556, 0x2555, 0x2563, 0x2551, 0x2557, 0x255d, 0x255c, 0x255b, 0x2510, 0x2514,
        0x2534, 0x252c, 0x251c, 0x2500, 0x253c, 0x255e, 0x255f, 0x255a, 0x2554, 0x2569, 0x2566,
        0x2560, 0x2550, 0x256c, 0x2567, 0x2568, 0x2564, 0x2565, 0x2559, 0x2558, 0x2552, 0x2553,
        0x256b, 0x256a, 0x2518, 0x250c, 0x2588, 0x2584, 0x258c, 0x2590, 0x2580] ++ codes 0x636 5 ++
      [0x641, 0xb5] ++ codes 0x642 9 ++ [0x2261] ++ codes 0x64b 6 ++ [0x2248, 0xb0, 0x2219, 0xb7,
        0x221a, 0x207f, 0xb2, 0x25a0, 0xa0]⟩

def cp737 : ByteTable :=
  ⟨"cp737", [],
    codes 0x391 17 ++ codes 0x3a3 7 ++ codes 0x3b1 17 ++ [0x3c3, 0x3c2] ++ codes 0x3c4 5 ++ [0x2591,
        0x2592, 0x2593, 0x2502, 0x2524, 0x2561, 0x2562, 0x2556, 0x2555, 0x2563, 0x2551, 0x2557,
        0x255d, 0x255c, 0x255b, 0x2510, 0x2514, 0x2534, 0x252c, 0x251c, 0x2500, 0x253c, 0x255e,
        0x255f, 0x255a, 0x2554, 0x2569, 0x2566, 0x2560, 0x2550, 0x256c, 0x2567, 0x2568, 0x2564,
        0x2565, 0x2559, 0x2558, 0x2552, 0x2553, 0x256b, 0x256a, 0x2518, 0x250c, 0x2588, 0x2584,
        0x258c, 0x2590, 0x2580, 0x3c9, 0x3ac, 0x3ad, 0x3ae, 0x3ca, 0x3af, 0x3cc, 0x3cd, 0x3cb,
        0x3ce, 0x386, 0x388, 0x389, 0x38a, 0x38c, 0x38e, 0x38f, 0xb1, 0x2265, 0x2264, 0x3aa,
        0x3ab, 0xf7, 0x2248, 0xb0, 0x2219, 0xb7, 0x221a, 0x207f, 0xb2, 0x25a0, 0xa0]⟩

def cp775 : ByteTable :=
  ⟨"cp775", ["775", "cspc775baltic", "ibm775"],
    [0x106, 0xfc, 0xe9, 0x101, 0xe4, 0x123, 0xe5, 0x107, 0x142, 0x113, 0x156, 0x157, 0x12b,
        0x179, 0xc4, 0xc5, 0xc9, 0xe6, 0xc6, 0x14d, 0xf6, 0x122, 0xa2, 0x15a, 0x15b, 0xd6, 0xdc,
        0xf8, 0xa3, 0xd8, 0xd7, 0xa4, 0x100, 0x12a, 0xf3, 0x17b, 0x17c, 0x17a, 0x201d, 0xa6,
        0xa9, 0xae, 0xac, 0xbd, 0xbc, 0x141, 0xab, 0xbb, 0x2591, 0x2592, 0x2593, 0x2502, 0x2524,
        0x104, 0x10c, 0x118, 0x116, 0x2563, 0x2551, 0x2557, 0x255d, 0x12e, 0x160, 0x2510, 0x2514,
        0x2534, 0x252c, 0x251c, 0x2500, 0x253c, 0x172, 0x16a, 0x255a, 0x2554, 0x2569, 0x2566,
        0x2560, 0x2550, 0x256c, 0x17d, 0x105, 0x10d, 0x119, 0x117, 0x12f, 0x161, 0x173, 0x16b,
        0x17e, 0x2518, 0x250c, 0x2588, 0x2584, 0x258c, 0x2590, 0x2580, 0xd3, 0xdf, 0x14c, 0x143,
        0xf5, 0xd5, 0xb5, 0x144, 0x136, 0x137, 0x13b, 0x13c, 0x146, 0x112, 0x145, 0x2019, 0xad,
        0xb1, 0x201c, 0xbe, 0xb6, 0xa7, 0xf7, 0x201e, 0xb0, 0x2219, 0xb7, 0xb9, 0xb3, 0xb2,
        0x25a0, 0xa0]⟩

def cp850 : ByteTable :=
  ⟨"cp850", ["850", "cspc850multilingual", "ibm850"],
    [0xc7, 0xfc, 0xe9, 0xe2, 0xe4, 0xe0, 0xe5, 0xe7, 0xea, 0xeb, 0xe8, 0xef, 0xee, 0xec, 0xc4,
        0xc5, 0xc9, 0xe6, 0xc6, 0xf4, 0xf6, 0xf2, 0xfb, 0xf9, 0xff, 0xd6, 0xdc, 0xf8, 0xa3, 0xd8,
        0xd7, 0x192, 0xe1, 0xed, 0xf3, 0xfa, 0xf1, 0xd1, 0xaa, 0xba, 0xbf, 0xae, 0xac, 0xbd,
        0xbc, 0xa1, 0xab, 0xbb, 0x2591, 0x2592, 0x2593, 0x2502, 0x2524, 0xc1, 0xc2, 0xc0, 0xa9,
        0x2563, 0x2551, 0x2557, 0x255d, 0xa2, 0xa5, 0x2510, 0x2514, 0x2534, 0x252c, 0x251c,
        0x2500, 0x253c, 0xe3, 0xc3, 0x255a, 0x2554, 0x2569, 0x2566, 0x2560, 0x2550, 0x256c, 0xa4,
        0xf0, 0xd0, 0xca, 0xcb, 0xc8, 0x131, 0xcd, 0xce, 0xcf, 0x2518, 0x250c, 0x2588, 0x2584,
        0xa6, 0xcc, 0x2580, 0xd3, 0xdf, 0xd4, 0xd2, 0xf5, 0xd5, 0xb5, 0xfe, 0xde, 0xda, 0xdb,
        0xd9, 0xfd, 0xdd, 0xaf, 0xb4, 0xad, 0xb1, 0x2017, 0xbe, 0xb6, 0xa7, 0xf7, 0xb8, 0xb0,
        0xa8, 0xb7, 0xb9, 0xb3, 0xb2, 0x25a0, 0xa0]⟩

def cp852 : ByteTable :=
  ⟨"cp852", ["852", "cspcp852", "ibm852"],
    [0xc7, 0xfc, 0xe9, 0xe2, 0xe4, 0x16f, 0x107, 0xe7, 0x142, 0xeb, 0x150, 0x151, 0xee, 0x179,
        0xc4, 0x106, 0xc9, 0x139, 0x13a, 0xf4, 0xf6, 0x13d, 0x13e, 0x15a, 0x15b, 0xd6, 0xdc,
        0x164, 0x165, 0x141, 0xd7, 0x10d, 0xe1, 0xed, 0xf3, 0xfa, 0x104, 0x105, 0x17d, 0x17e,
        0x118, 0x119, 0xac, 0x17a, 0x10c, 0x15f, 0xab, 0xbb, 0x2591, 0x2592, 0x2593, 0x2502,
        0x2524, 0xc1, 0xc2, 0x11a, 0x15e, 0x2563, 0x2551, 0x2557, 0x255d, 0x17b, 0x17c, 0x2510,
        0x2514, 0x2534, 0x252c, 0x251c, 0x2500, 0x253c, 0x102, 0x103, 0x255a, 0x2554, 0x2569,
        0x2566, 0x2560, 0x2550, 0x256c, 0xa4, 0x111, 0x110, 0x10e, 0xcb, 0x10f, 0x147, 0xcd,
        0xce, 0x11b, 0x2518, 0x250c, 0x2588, 0x2584, 0x162, 0x16e, 0x2580, 0xd3, 0xdf, 0xd4,
        0x143, 0x144, 0x148, 0x160, 0x161, 0x154, 0xda, 0x155, 0x170, 0xfd, 0xdd, 0x163, 0xb4,
        0xad, 0x2dd, 0x2db, 0x2c7, 0x2d8, 0xa7, 0xf7, 0xb8, 0xb0, 0xa8, 0x2d9, 0x171, 0x158,
        0x159, 0x25a0, 0xa0]⟩

def cp855 : ByteTable :=
  ⟨"cp855", ["855", "csibm855", "ibm855"],
    [0x452, 0x402, 0x453, 0x403, 0x451, 0x401, 0x454, 0x404, 0x455, 0x405, 0x456, 0x406, 0x457,
        0x407, 0x458, 0x408, 0x459, 0x409, 0x45a, 0x40a, 0x45b, 0x40b, 0x45c, 0x40c, 0x45e,
        0x40e, 0x45f, 0x40f, 0x44e, 0x42e, 0x44a, 0x42a, 0x430, 0x410, 0x431, 0x411, 0x446,
        0x426, 0x434, 0x414, 0x435, 0x415, 0x444, 0x424, 0x433, 0x413, 0xab, 0xbb, 0x2591,
        0x2592, 0x2593, 0x2502, 0x2524, 0x445, 0x425, 0x438, 0x418, 0x2563, 0x2551, 0x2557,
        0x255d, 0x439, 0x419, 0x2510, 0x2514, 0x2534, 0x252c, 0x251c, 0x2500, 0x253c, 0x43a,
        0x41a, 0x255a, 0x2554, 0x2569, 0x2566, 0x2560, 0x2550, 0x256c, 0xa4, 0x43b, 0x41b, 0x43c,
        0x41c, 0x43d, 0x41d, 0x43e, 0x41e, 0x43f, 0x2518, 0x250c, 0x2588, 0x2584, 0x41f, 0x44f,
        0x2580, 0x42f, 0x440, 0x420, 0x441, 0x421, 0x442, 0x422, 0x443, 0x423, 0x436, 0x416,
        0x432, 0x412, 0x44c, 0x42c, 0x2116, 0xad, 0x44b, 0x42b, 0x437, 0x417, 0x448, 0x428,
        0x44d, 0x42d, 0x449, 0x429, 0x447, 0x427, 0xa7, 0x25a0, 0xa0]⟩

def cp856 : ByteTable :=
  ⟨"cp856", [],
    codes 0x5d0 27 ++ [0, 0xa3, 0, 0xd7] ++ holes 10 ++ [0xae, 0xac, 0xbd, 0xbc, 0, 0xab, 0xbb,
        0x2591, 0x2592, 0x2593, 0x2502, 0x2524, 0, 0, 0, 0xa9, 0x2563, 0x2551, 0x2557, 0x255d,
        0xa2, 0xa5, 0x2510, 0x2514, 0x2534, 0x252c, 0x251c, 0x2500, 0x253c, 0, 0, 0x255a, 0x2554,
        0x2569, 0x2566, 0x2560, 0x2550, 0x256c, 0xa4] ++ holes 9 ++ [0x2518, 0x250c, 0x2588,
        0x2584, 0xa6, 0, 0x2580] ++ holes 6 ++ [0xb5] ++ holes 7 ++ [0xaf, 0xb4, 0xad, 0xb1, 0x2017,
        0xbe, 0xb6, 0xa7, 0xf7, 0xb8, 0xb0, 0xa8, 0xb7, 0xb9, 0xb3, 0xb2, 0x25a0, 0xa0]⟩

def cp857 : ByteTable :=
  ⟨"cp857", ["857", "csibm857", "ibm857"],
    [0xc7, 0xfc, 0xe9, 0xe2, 0xe4, 0xe0, 0xe5, 0xe7, 0xea, 0xeb, 0xe8, 0xef, 0xee, 0x131, 0xc4,
        0xc5, 0xc9, 0xe6, 0xc6, 0xf4, 0xf6, 0xf2, 0xfb, 0xf9, 0x130, 0xd6, 0xdc, 0xf8, 0xa3,
        0xd8, 0x15e, 0x15f, 0xe1, 0xed, 0xf3, 0xfa, 0xf1, 0xd1, 0x11e, 0x11f, 0xbf, 0xae, 0xac,
        0xbd, 0xbc, 0xa1, 0xab, 0xbb, 0x2591, 0x2592, 0x2593, 0x2502, 0x2524, 0xc1, 0xc2, 0xc0,
        0xa9, 0x2563, 0x2551, 0x2557, 0x255d, 0xa2, 0xa5, 0x2510, 0x2514, 0x2534, 0x252c, 0x251c,
        0x2500, 0x253c, 0xe3, 0xc3, 0x255a, 0x2554, 0x2569, 0x2566, 0x2560, 0x2550, 0x256c, 0xa4,
        0xba, 0xaa, 0xca, 0xcb, 0xc8, 0, 0xcd, 0xce, 0xcf, 0x2518, 0x250c, 0x2588, 0x2584, 0xa6,
        0xcc, 0x2580, 0xd3, 0xdf, 0xd4, 0xd2, 0xf5, 0xd5, 0xb5, 0, 0xd7, 0xda, 0xdb, 0xd9, 0xec,
        0xff, 0xaf, 0xb4, 0xad, 0xb1, 0, 0xbe, 0xb6, 0xa7, 0xf7, 0xb8, 0xb0, 0xa8, 0xb7, 0xb9,
        0xb3, 0xb2, 0x25a0, 0xa0]⟩

def cp858 : ByteTable :=
  ⟨"cp858", ["858", "csibm858", "ibm858"],
    [0xc7, 0xfc, 0xe9, 0xe2, 0xe4, 0xe0, 0xe5, 0xe7, 0xea, 0xeb, 0xe8, 0xef, 0xee, 0xec, 0xc4,
        0xc5, 0xc9, 0xe6, 0xc6, 0xf4, 0xf6, 0xf2, 0xfb, 0xf9, 0xff, 0xd6, 0xdc, 0xf8, 0xa3, 0xd8,
        0xd7, 0x192, 0xe1, 0xed, 0xf3, 0xfa, 0xf1, 0xd1, 0xaa, 0xba, 0xbf, 0xae, 0xac, 0xbd,
        0xbc, 0xa1, 0xab, 0xbb, 0x2591, 0x2592, 0x2593, 0x2502, 0x2524, 0xc1, 0xc2, 0xc0, 0xa9,
        0x2563, 0x2551, 0x2557, 0x255d, 0xa2, 0xa5, 0x2510, 0x2514, 0x2534, 0x252c, 0x251c,
        0x2500, 0x253c, 0xe3, 0xc3, 0x255a, 0x2554, 0x2569, 0x2566, 0x2560, 0x2550, 0x256c, 0xa4,
        0xf0, 0xd0, 0xca, 0xcb, 0xc8, 0x20ac, 0xcd, 0xce, 0xcf, 0x2518, 0x250c, 0x2588, 0x2584,
        0xa6, 0xcc, 0x2580, 0xd3, 0xdf, 0xd4, 0xd2, 0xf5, 0xd5, 0xb5, 0xfe, 0xde, 0xda, 0xdb,
        0xd9, 0xfd, 0xdd, 0xaf, 0xb4, 0xad, 0xb1, 0x2017, 0xbe, 0xb6, 0xa7, 0xf7, 0xb8, 0xb0,
        0xa8, 0xb7, 0xb9, 0xb3, 0xb2, 0x25a0, 0xa0]⟩

def cp860 : ByteTable :=
  ⟨"cp860", ["860", "csibm860", "ibm860"],
    [0xc7, 0xfc, 0xe9, 0xe2, 0xe3, 0xe0, 0xc1, 0xe7, 0xea, 0xca, 0xe8, 0xcd, 0xd4, 0xec, 0xc3,
        0xc2, 0xc9, 0xc0, 0xc8, 0xf4, 0xf5, 0xf2, 0xda, 0xf9, 0xcc, 0xd5, 0xdc, 0xa2, 0xa3, 0xd9,
        0x20a7, 0xd3, 0xe1, 0xed, 0xf3, 0xfa, 0xf1, 0xd1, 0xaa, 0xba, 0xbf, 0xd2, 0xac, 0xbd,
        0xbc, 0xa1, 0xab, 0xbb, 0x2591, 0x2592, 0x2593, 0x2502, 0x2524, 0x2561, 0x2562, 0x2556,
        0x2555, 0x2563, 0x2551, 0x2557, 0x255d, 0x255c, 0x255b, 0x2510, 0x2514, 0x2534, 0x252c,
        0x251c, 0x2500, 0x253c, 0x255e, 0x255f, 0x255a, 0x2554, 0x2569, 0x2566, 0x2560, 0x2550,
        0x256c, 0x2567, 0x2568, 0x2564, 0x2565, 0x2559, 0x2558, 0x2552, 0x2553, 0x256b, 0x256a,
        0x2518, 0x250c, 0x2588, 0x2584, 0x258c, 0x2590, 0x2580, 0x3b1, 0xdf, 0x393, 0x3c0, 0x3a3,
        0x3c3, 0xb5, 0x3c4, 0x3a6, 0x398, 0x3a9, 0x3b4, 0x221e, 0x3c6, 0x3b5, 0x2229, 0x2261,
        0xb1, 0x2265, 0x2264, 0x2320, 0x2321, 0xf7, 0x2248, 0xb0, 0x2219, 0xb7, 0x221a, 0x207f,
        0xb2, 0x25a0, 0xa0]⟩

def cp861 : ByteTable :=
  ⟨"cp861", ["861", "cp_is", "csibm861", "ibm861"],
    [0xc7, 0xfc, 0xe9, 0xe2, 0xe4, 0xe0, 0xe5, 0xe7, 0xea, 0xeb, 0xe8, 0xd0, 0xf0, 0xde, 0xc4,
        0xc5, 0xc9, 0xe6, 0xc6, 0xf4, 0xf6, 0xfe, 0xfb, 0xdd, 0xfd, 0xd6, 0xdc, 0xf8, 0xa3, 0xd8,
        0x20a7, 0x192, 0xe1, 0xed, 0xf3, 0xfa, 0xc1, 0xcd, 0xd3, 0xda, 0xbf, 0x2310, 0xac, 0xbd,
        0xbc, 0xa1, 0xab, 0xbb, 0x2591, 0x2592, 0x2593, 0x2502, 0x2524, 0x2561, 0x2562, 0x2556,
        0x2555, 0x2563, 0x2551, 0x2557, 0x255d, 0x255c, 0x255b, 0x2510, 0x2514, 0x2534, 0x252c,
        0x251c, 0x2500, 0x253c, 0x255e, 0x255f, 0x255a, 0x2554, 0x2569, 0x2566, 0x2560, 0x2550,
        0x256c, 0x2567, 0x2568, 0x2564, 0x2565, 0x2559, 0x2558, 0x2552, 0x2553, 0x256b, 0x256a,
        0x2518, 0x250c, 0x2588, 0x2584, 0x258c, 0x2590, 0x2580, 0x3b1, 0xdf, 0x393, 0x3c0, 0x3a3,
        0x3c3, 0xb5, 0x3c4, 0x3a6, 0x398, 0x3a9, 0x3b4, 0x221e, 0x3c6, 0x3b5, 0x2229, 0x2261,
        0xb1, 0x2265, 0x2264, 0x2320, 0x2321, 0xf7, 0x2248, 0xb0, 0x2219, 0xb7, 0x221a, 0x207f,
        0xb2, 0x25a0, 0xa0]⟩

def cp862 : ByteTable :=
  ⟨"cp862", ["862", "cspc862latinhebrew", "ibm862"],
    codes 0x5d0 27 ++ [0xa2, 0xa3, 0xa5, 0x20a7, 0x192, 0xe1, 0xed, 0xf3, 0xfa, 0xf1, 0xd1, 0xaa,
        0xba, 0xbf, 0x2310, 0xac, 0xbd, 0xbc, 0xa1, 0xab, 0xbb, 0x2591, 0x2592, 0x2593, 0x2502,
        0x2524, 0x2561, 0x2562, 0x2556, 0x2555, 0x2563, 0x2551, 0x2557, 0x255d, 0x255c, 0x255b,
        0x2510, 0x2514, 0x2534, 0x252c, 0x251c, 0x2500, 0x253c, 0x255e, 0x255f, 0x255a, 0x2554,
        0x2569, 0x2566, 0x2560, 0x2550, 0x256c, 0x2567, 0x2568, 0x2564, 0x2565, 0x2559, 0x2558,
        0x2552, 0x2553, 0x256b, 0x256a, 0x2518, 0x250c, 0x2588, 0x2584, 0x258c, 0x2590, 0x2580,
        0x3b1, 0xdf, 0x393, 0x3c0, 0x3a3, 0x3c3, 0xb5, 0x3c4, 0x3a6, 0x398, 0x3a9, 0x3b4, 0x221e,
        0x3c6, 0x3b5, 0x2229, 0x2261, 0xb1, 0x2265, 0x2264, 0x2320, 0x2321, 0xf7, 0x2248, 0xb0,
        0x2219, 0xb7, 0x221a, 0x207f, 0xb2, 0x25a0, 0xa0]⟩

def cp863 : ByteTable :=
  ⟨"cp863", ["863", "csibm863", "ibm863"],
    [0xc7, 0xfc, 0xe9, 0xe2, 0xc2, 0xe0, 0xb6, 0xe7, 0xea, 0xeb, 0xe8, 0xef, 0xee, 0x2017, 0xc0,
        0xa7, 0xc9, 0xc8, 0xca, 0xf4, 0xcb, 0xcf, 0xfb, 0xf9, 0xa4, 0xd4, 0xdc, 0xa2, 0xa3, 0xd9,
        0xdb, 0x192, 0xa6, 0xb4, 0xf3, 0xfa, 0xa8, 0xb8, 0xb3, 0xaf, 0xce, 0x2310, 0xac, 0xbd,
        0xbc, 0xbe, 0xab, 0xbb, 0x2591, 0x2592, 0x2593, 0x2502, 0x2524, 0x2561, 0x2562, 0x2556,
        0x2555, 0x2563, 0x2551, 0x2557, 0x255d, 0x255c, 0x255b, 0x2510, 0x2514, 0x2534, 0x252c,
        0x251c, 0x2500, 0x253c, 0x255e, 0x255f, 0x255a, 0x2554, 0x2569, 0x2566, 0x2560, 0x2550,
        0x256c, 0x2567, 0x2568, 0x2564, 0x2565, 0x2559, 0x2558, 0x2552, 0x2553, 0x256b, 0x256a,
        0x2518, 0x250c, 0x2588, 0x2584, 0x258c, 0x2590, 0x2580, 0x3b1, 0xdf, 0x393, 0x3c0, 0x3a3,
        0x3c3, 0xb5, 0x3c4, 0x3a6, 0x398, 0x3a9, 0x3b4, 0x221e, 0x3c6, 0x3b5, 0x2229, 0x2261,
        0xb1, 0x2265, 0x2264, 0x2320, 0x2321, 0xf7, 0x2248, 0xb0, 0x2219, 0xb7, 0x221a, 0x207f,
        0xb2, 0x25a0, 0xa0]⟩

def cp865 : ByteTable :=
  ⟨"cp865", ["865", "csibm865", "ibm865"],
    [0xc7, 0xfc, 0xe9, 0xe2, 0xe4, 0xe0, 0xe5, 0xe7, 0xea, 0xeb, 0xe8, 0xef, 0xee, 0xec, 0xc4,
        0xc5, 0xc9, 0xe6, 0xc6, 0xf4, 0xf6, 0xf2, 0xfb, 0xf9, 0xff, 0xd6, 0xdc, 0xf8, 0xa3, 0xd8,
        0x20a7, 0x192, 0xe1, 0xed, 0xf3, 0xfa, 0xf1, 0xd1, 0xaa, 0xba, 0xbf, 0x2310, 0xac, 0xbd,
        0xbc, 0xa1, 0xab, 0xa4, 0x2591, 0x2592, 0x2593, 0x2502, 0x2524, 0x2561, 0x2562, 0x2556,
        0x2555, 0x2563, 0x2551, 0x2557, 0x255d, 0x255c, 0x255b, 0x2510, 0x2514, 0x2534, 0x252c,
        0x251c, 0x2500, 0x253c, 0x255e, 0x255f, 0x255a, 0x2554, 0x2569, 0x2566, 0x2560, 0x2550,
        0x256c, 0x2567, 0x2568, 0x2564, 0x2565, 0x2559, 0x2558, 0x2552, 0x2553, 0x256b, 0x256a,
        0x2518, 0x250c, 0x2588, 0x2584, 0x258c, 0x2590, 0x2580, 0x3b1, 0xdf, 0x393, 0x3c0, 0x3a3,
        0x3c3, 0xb5, 0x3c4, 0x3a6, 0x398, 0x3a9, 0x3b4, 0x221e, 0x3c6, 0x3b5, 0x2229, 0x2261,
        0xb1, 0x2265, 0x2264, 0x2320, 0x2321, 0xf7, 0x2248, 0xb0, 0x2219, 0xb7, 0x221a, 0x207f,
        0xb2, 0x25a0, 0xa0]⟩

def cp866 : ByteTable :=
  ⟨"cp866", ["866", "csibm866", "ibm866"],
    codes 0x410 48 ++ [0x2591, 0x2592, 0x2593, 0x2502, 0x2524, 0x2561, 0x2562, 0x2556, 0x2555,
        0x2563, 0x2551, 0x2557, 0x255d, 0x255c, 0x255b, 0x2510, 0x2514, 0x2534, 0x252c, 0x251c,
        0x2500, 0x253c, 0x255e, 0x255f, 0x255a, 0x2554, 0x2569, 0x2566, 0x2560, 0x2550, 0x256c,
        0x2567, 0x2568, 0x2564, 0x2565, 0x2559, 0x2558, 0x2552, 0x2553, 0x256b, 0x256a, 0x2518,
        0x250c, 0x2588, 0x2584, 0x258c, 0x2590, 0x2580] ++ codes 0x440 16 ++ [0x401, 0x451, 0x404,
        0x454, 0x407, 0x457, 0x40e, 0x45e, 0xb0, 0x2219, 0xb7, 0x221a, 0x2116, 0xa4, 0x25a0,
        0xa0]⟩

def cp869 : ByteTable :=
  ⟨"cp869", ["869", "cp_gr", "csibm869", "ibm869"],
    holes 6 ++ [0x386, 0, 0xb7, 0xac, 0xa6, 0x2018, 0x2019, 0x388, 0x2015, 0x389, 0x38a, 0x3aa,
        0x38c, 0, 0, 0x38e, 0x3ab, 0xa9, 0x38f, 0xb2, 0xb3, 0x3ac, 0xa3, 0x3ad, 0x3ae, 0x3af,
        0x3ca, 0x390, 0x3cc, 0x3cd] ++ codes 0x391 7 ++ [0xbd, 0x398, 0x399, 0xab, 0xbb, 0x2591,
        0x2592, 0x2593, 0x2502, 0x2524, 0x39a, 0x39b, 0x39c, 0x39d, 0x2563, 0x2551, 0x2557,
        0x255d, 0x39e, 0x39f, 0x2510, 0x2514, 0x2534, 0x252c, 0x251c, 0x2500, 0x253c, 0x3a0,
        0x3a1, 0x255a, 0x2554, 0x2569, 0x2566, 0x2560, 0x2550, 0x256c] ++ codes 0x3a3 7 ++
      [0x3b1, 0x3b2, 0x3b3, 0x2518, 0x250c, 0x2588, 0x2584, 0x3b4, 0x3b5, 0x2580] ++
      codes 0x3b6 12 ++ [0x3c3, 0x3c2, 0x3c4, 0x384, 0xad, 0xb1, 0x3c5, 0x3c6, 0x3c7, 0xa7, 0x3c8,
        0x385, 0xb0, 0xa8, 0x3c9, 0x3cb, 0x3b0, 0x3ce, 0x25a0, 0xa0]⟩

def cp874 : ByteTable :=
  ⟨"cp874", [],
    [0x20ac, 0, 0, 0, 0, 0x2026] ++ holes 11 ++ [0x2018, 0x2019, 0x201c, 0x201d, 0x2022, 0x2013,
        0x2014] ++ holes 8 ++ [0xa0] ++ codes 0xe01 58 ++ [0, 0, 0, 0] ++ codes 0xe3f 29 ++ [0, 0, 0,
        0]⟩

def cp1125 : ByteTable :=
  ⟨"cp1125", ["1125", "cp866u", "ibm1125", "ruscii"],
    codes 0x410 48 ++ [0x2591, 0x2592, 0x2593, 0x2502, 0x2524, 0x2561, 0x2562, 0x2556, 0x2555,
        0x2563, 0x2551, 0x2557, 0x255d, 0x255c, 0x255b, 0x2510, 0x2514, 0x2534, 0x252c, 0x251c,
        0x2500, 0x253c, 0x255e, 0x255f, 0x255a, 0x2554, 0x2569, 0x2566, 0x2560, 0x2550, 0x256c,
        0x2567, 0x2568, 0x2564, 0x2565, 0x2559, 0x2558, 0x2552, 0x2553, 0x256b, 0x256a, 0x2518,
        0x250c, 0x2588, 0x2584, 0x258c, 0x2590, 0x2580] ++ codes 0x440 16 ++ [0x401, 0x451, 0x490,
        0x491, 0x404, 0x454, 0x406, 0x456, 0x407, 0x457, 0xb7, 0x221a, 0x2116, 0xa4, 0x25a0,
        0xa0]⟩

def cp1250 : ByteTable :=
  ⟨"cp1250", ["1250", "windows_1250"],
    [0x20ac, 0, 0x201a, 0, 0x201e, 0x2026, 0x2020, 0x2021, 0, 0x2030, 0x160, 0x2039, 0x15a,
        0x164, 0x17d, 0x179, 0, 0x2018, 0x2019, 0x201c, 0x201d, 0x2022, 0x2013, 0x2014, 0,
        0x2122, 0x161, 0x203a, 0x15b, 0x165, 0x17e, 0x17a, 0xa0, 0x2c7, 0x2d8, 0x141, 0xa4,
        0x104, 0xa6, 0xa7, 0xa8, 0xa9, 0x15e, 0xab, 0xac, 0xad, 0xae, 0x17b, 0xb0, 0xb1, 0x2db,
        0x142] ++ codes 0xb4 5 ++ [0x105, 0x15f, 0xbb, 0x13d, 0x2dd, 0x13e, 0x17c, 0x154, 0xc1,
        0xc2, 0x102, 0xc4, 0x139, 0x106, 0xc7, 0x10c, 0xc9, 0x118, 0xcb, 0x11a, 0xcd, 0xce,
        0x10e, 0x110, 0x143, 0x147, 0xd3, 0xd4, 0x150, 0xd6, 0xd7, 0x158, 0x16e, 0xda, 0x170,
        0xdc, 0xdd, 0x162, 0xdf, 0x155, 0xe1, 0xe2, 0x103, 0xe4, 0x13a, 0x107, 0xe7, 0x10d, 0xe9,
        0x119, 0xeb, 0x11b, 0xed, 0xee, 0x10f, 0x111, 0x144, 0x148, 0xf3, 0xf4, 0x151, 0xf6,
        0xf7, 0x159, 0x16f, 0xfa, 0x171, 0xfc, 0xfd, 0x163, 0x2d9]⟩

def cp1251 : ByteTable :=
  ⟨"cp1251", ["1251", "windows_1251"],
    [0x402, 0x403, 0x201a, 0x453, 0x201e, 0x2026, 0x2020, 0x2021, 0x20ac, 0x2030, 0x409, 0x2039,
        0x40a, 0x40c, 0x40b, 0x40f, 0x452, 0x2018, 0x2019, 0x201c, 0x201d, 0x2022, 0x2013,
        0x2014, 0, 0x2122, 0x459, 0x203a, 0x45a, 0x45c, 0x45b, 0x45f, 0xa0, 0x40e, 0x45e, 0x408,
        0xa4, 0x490, 0xa6, 0xa7, 0x401, 0xa9, 0x404, 0xab, 0xac, 0xad, 0xae, 0x407, 0xb0, 0xb1,
        0x406, 0x456, 0x491, 0xb5, 0xb6, 0xb7, 0x451, 0x2116, 0x454, 0xbb, 0x458, 0x405, 0x455,
        0x457] ++ codes 0x410 64⟩

def cp1252 : ByteTable :=
  ⟨"cp1252", ["1252", "windows_1252"],
    [0x20ac, 0, 0x201a, 0x192, 0x201e, 0x2026, 0x2020, 0x2021, 0x2c6, 0x2030, 0x160, 0x2039,
        0x152, 0, 0x17d, 0, 0, 0x2018, 0x2019, 0x201c, 0x201d, 0x2022, 0x2013, 0x2014, 0x2dc,
        0x2122, 0x161, 0x203a, 0x153, 0, 0x17e, 0x178] ++ codes 0xa0 96⟩

def cp1253 : ByteTable :=
  ⟨"cp1253", ["1253", "windows_1253"],
    [0x20ac, 0, 0x201a, 0x192, 0x201e, 0x2026, 0x2020, 0x2021, 0, 0x2030, 0, 0x2039] ++ holes 5 ++
      [0x2018, 0x2019, 0x201c, 0x201d, 0x2022, 0x2013, 0x2014, 0, 0x2122, 0, 0x203a, 0, 0, 0, 0,
        0xa0, 0x385, 0x386] ++ codes 0xa3 7 ++ [0, 0xab, 0xac, 0xad, 0xae, 0x2015, 0xb0, 0xb1,
        0xb2, 0xb3, 0x384, 0xb5, 0xb6, 0xb7, 0x388, 0x389, 0x38a, 0xbb, 0x38c, 0xbd] ++
      codes 0x38e 20 ++ [0] ++ codes 0x3a3 44 ++ [0]⟩

def cp1254 : ByteTable :=
  ⟨"cp1254", ["1254", "windows_1254"],
    [0x20ac, 0, 0x201a, 0x192, 0x201e, 0x2026, 0x2020, 0x2021, 0x2c6, 0x2030, 0x160, 0x2039,
        0x152, 0, 0, 0, 0, 0x2018, 0x2019, 0x201c, 0x201d, 0x2022, 0x2013, 0x2014, 0x2dc, 0x2122,
        0x161, 0x203a, 0x153, 0, 0, 0x178] ++ codes 0xa0 48 ++ [0x11e] ++ codes 0xd1 12 ++ [0x130,
        0x15e] ++ codes 0xdf 17 ++ [0x11f] ++ codes 0xf1 12 ++ [0x131, 0x15f, 0xff]⟩

def cp1255 : ByteTable :=
  ⟨"cp1255", ["1255", "windows_1255"],
    [0x20ac, 0, 0x201a, 0x192, 0x201e, 0x2026, 0x2020, 0x2021, 0x2c6, 0x2030, 0, 0x2039] ++
      holes 5 ++ [0x2018, 0x2019, 0x201c, 0x201d, 0x2022, 0x2013, 0x2014, 0x2dc, 0x2122, 0, 0x203a,
        0, 0, 0, 0, 0xa0, 0xa1, 0xa2, 0xa3, 0x20aa] ++ codes 0xa5 5 ++ [0xd7] ++ codes 0xab 15 ++
      [0xf7] ++ codes 0xbb 5 ++ codes 0x5b0 10 ++ [0] ++ codes 0x5bb 9 ++ codes 0x5f0 5 ++ holes 7 ++
      codes 0x5d0 27 ++ [0, 0, 0x200e, 0x200f, 0]⟩

def cp1256 : ByteTable :=
  ⟨"cp1256", ["1256", "windows_1256"],
    [0x20ac, 0x67e, 0x201a, 0x192, 0x201e, 0x2026, 0x2020, 0x2021, 0x2c6, 0x2030, 0x679, 0x2039,
        0x152, 0x686, 0x698, 0x688, 0x6af, 0x2018, 0x2019, 0x201c, 0x201d, 0x2022, 0x2013,
        0x2014, 0x6a9, 0x2122, 0x691, 0x203a, 0x153, 0x200c, 0x200d, 0x6ba, 0xa0, 0x60c] ++
      codes 0xa2 8 ++ [0x6be] ++ codes 0xab 15 ++ [0x61b, 0xbb, 0xbc, 0xbd, 0xbe, 0x61f, 0x6c1] ++
      codes 0x621 22 ++ [0xd7, 0x637, 0x638, 0x639, 0x63a, 0x640, 0x641, 0x642, 0x643, 0xe0, 0x644,
        0xe2, 0x645, 0x646, 0x647, 0x648] ++ codes 0xe7 5 ++ [0x649, 0x64a, 0xee, 0xef, 0x64b,
        0x64c, 0x64d, 0x64e, 0xf4, 0x64f, 0x650, 0xf7, 0x651, 0xf9, 0x652, 0xfb, 0xfc, 0x200e,
        0x200f, 0x6d2]⟩

def cp1257 : ByteTable :=
  ⟨"cp1257", ["1257", "windows_1257"],
    [0x20ac, 0, 0x201a, 0, 0x201e, 0x2026, 0x2020, 0x2021, 0, 0x2030, 0, 0x2039, 0, 0xa8, 0x2c7,
        0xb8, 0, 0x2018, 0x2019, 0x201c, 0x201d, 0x2022, 0x2013, 0x2014, 0, 0x2122, 0, 0x203a, 0,
        0xaf, 0x2db, 0, 0xa0, 0, 0xa2, 0xa3, 0xa4, 0, 0xa6, 0xa7, 0xd8, 0xa9, 0x156, 0xab, 0xac,
        0xad, 0xae, 0xc6] ++ codes 0xb0 8 ++ [0xf8, 0xb9, 0x157, 0xbb, 0xbc, 0xbd, 0xbe, 0xe6,
        0x104, 0x12e, 0x100, 0x106, 0xc4, 0xc5, 0x118, 0x112, 0x10c, 0xc9, 0x179, 0x116, 0x122,
        0x136, 0x12a, 0x13b, 0x160, 0x143, 0x145, 0xd3, 0x14c, 0xd5, 0xd6, 0xd7, 0x172, 0x141,
        0x15a, 0x16a, 0xdc, 0x17b, 0x17d, 0xdf, 0x105, 0x12f, 0x101, 0x107, 0xe4, 0xe5, 0x119,
        0x113, 0x10d, 0xe9, 0x17a, 0x117, 0x123, 0x137, 0x12b, 0x13c, 0x161, 0x144, 0x146, 0xf3,
        0x14d, 0xf5, 0xf6, 0xf7, 0x173, 0x142, 0x15b, 0x16b, 0xfc, 0x17c, 0x17e, 0x2d9]⟩

def cp1258 : ByteTable :=
  ⟨"cp1258", ["1258", "windows_1258"],
    [0x20ac, 0, 0x201a, 0x192, 0x201e, 0x2026, 0x2020, 0x2021, 0x2c6, 0x2030, 0, 0x2039, 0x152,
        0, 0, 0, 0, 0x2018, 0x2019, 0x201c, 0x201d, 0x2022, 0x2013, 0x2014, 0x2dc, 0x2122, 0,
        0x203a, 0x153, 0, 0, 0x178] ++ codes 0xa0 35 ++ [0x102] ++ codes 0xc4 8 ++ [0x300, 0xcd,
        0xce, 0xcf, 0x110, 0xd1, 0x309, 0xd3, 0xd4, 0x1a0] ++ codes 0xd6 7 ++ [0x1af, 0x303, 0xdf,
        0xe0, 0xe1, 0xe2, 0x103] ++ codes 0xe4 8 ++ [0x301, 0xed, 0xee, 0xef, 0x111, 0xf1, 0x323,
        0xf3, 0xf4, 0x1a1] ++ codes 0xf6 7 ++ [0x1b0, 0x20ab, 0xff]⟩

def hpRoman8 : ByteTable :=
  ⟨"hp_roman8", ["cp1051", "ibm1051", "r8", "roman8"],
    codes 0x80 33 ++ [0xc0, 0xc2, 0xc8, 0xca, 0xcb, 0xce, 0xcf, 0xb4, 0x2cb, 0x2c6, 0xa8, 0x2dc,
        0xd9, 0xdb, 0x20a4, 0xaf, 0xdd, 0xfd, 0xb0, 0xc7, 0xe7, 0xd1, 0xf1, 0xa1, 0xbf, 0xa4,
        0xa3, 0xa5, 0xa7, 0x192, 0xa2, 0xe2, 0xea, 0xf4, 0xfb, 0xe1, 0xe9, 0xf3, 0xfa, 0xe0,
        0xe8, 0xf2, 0xf9, 0xe4, 0xeb, 0xf6, 0xfc, 0xc5, 0xee, 0xd8, 0xc6, 0xe5, 0xed, 0xf8, 0xe6,
        0xc4, 0xec, 0xd6, 0xdc, 0xc9, 0xef, 0xdf, 0xd4, 0xc1, 0xc3, 0xe3, 0xd0, 0xf0, 0xcd, 0xcc,
        0xd3, 0xd2, 0xd5, 0xf5, 0x160, 0x161, 0xda, 0x178, 0xff, 0xde, 0xfe, 0xb7, 0xb5, 0xb6,
        0xbe, 0x2014, 0xbc, 0xbd, 0xaa, 0xba, 0xab, 0x25a0, 0xbb, 0xb1, 0]⟩

def iso8859Part2 : ByteTable :=
  ⟨"iso8859_2", ["csisolatin2", "iso_8859_2", "iso_8859_2_1987", "iso_ir_101", "l2", "latin2"],
    codes 0x80 33 ++ [0x104, 0x2d8, 0x141, 0xa4, 0x13d, 0x15a, 0xa7, 0xa8, 0x160, 0x15e, 0x164,
        0x179, 0xad, 0x17d, 0x17b, 0xb0, 0x105, 0x2db, 0x142, 0xb4, 0x13e, 0x15b, 0x2c7, 0xb8,
        0x161, 0x15f, 0x165, 0x17a, 0x2dd, 0x17e, 0x17c, 0x154, 0xc1, 0xc2, 0x102, 0xc4, 0x139,
        0x106, 0xc7, 0x10c, 0xc9, 0x118, 0xcb, 0x11a, 0xcd, 0xce, 0x10e, 0x110, 0x143, 0x147,
        0xd3, 0xd4, 0x150, 0xd6, 0xd7, 0x158, 0x16e, 0xda, 0x170, 0xdc, 0xdd, 0x162, 0xdf, 0x155,
        0xe1, 0xe2, 0x103, 0xe4, 0x13a, 0x107, 0xe7, 0x10d, 0xe9, 0x119, 0xeb, 0x11b, 0xed, 0xee,
        0x10f, 0x111, 0x144, 0x148, 0xf3, 0xf4, 0x151, 0xf6, 0xf7, 0x159, 0x16f, 0xfa, 0x171,
        0xfc, 0xfd, 0x163, 0x2d9]⟩

def iso8859Part3 : ByteTable :=
  ⟨"iso8859_3", ["csisolatin3", "iso_8859_3", "iso_8859_3_1988", "iso_ir_109", "l3", "latin3"],
    codes 0x80 33 ++ [0x126, 0x2d8, 0xa3, 0xa4, 0, 0x124, 0xa7, 0xa8, 0x130, 0x15e, 0x11e, 0x134,
        0xad, 0, 0x17b, 0xb0, 0x127, 0xb2, 0xb3, 0xb4, 0xb5, 0x125, 0xb7, 0xb8, 0x131, 0x15f,
        0x11f, 0x135, 0xbd, 0, 0x17c, 0xc0, 0xc1, 0xc2, 0, 0xc4, 0x10a, 0x108] ++ codes 0xc7 9 ++
      [0, 0xd1, 0xd2, 0xd3, 0xd4, 0x120, 0xd6, 0xd7, 0x11c, 0xd9, 0xda, 0xdb, 0xdc, 0x16c, 0x15c,
        0xdf, 0xe0, 0xe1, 0xe2, 0, 0xe4, 0x10b, 0x109] ++ codes 0xe7 9 ++ [0, 0xf1, 0xf2, 0xf3,
        0xf4, 0x121, 0xf6, 0xf7, 0x11d, 0xf9, 0xfa, 0xfb, 0xfc, 0x16d, 0x15d, 0x2d9]⟩

def iso8859Part4 : ByteTable :=
  ⟨"iso8859_4", ["csisolatin4", "iso_8859_4", "iso_8859_4_1988", "iso_ir_110", "l4", "latin4"],
    codes 0x80 33 ++ [0x104, 0x138, 0x156, 0xa4, 0x128, 0x13b, 0xa7, 0xa8, 0x160, 0x112, 0x122,
        0x166, 0xad, 0x17d, 0xaf, 0xb0, 0x105, 0x2db, 0x157, 0xb4, 0x129, 0x13c, 0x2c7, 0xb8,
        0x161, 0x113, 0x123, 0x167, 0x14a, 0x17e, 0x14b, 0x100] ++ codes 0xc1 6 ++ [0x12e, 0x10c,
        0xc9, 0x118, 0xcb, 0x116, 0xcd, 0xce, 0x12a, 0x110, 0x145, 0x14c, 0x136] ++ codes 0xd4 5 ++
      [0x172, 0xda, 0xdb, 0xdc, 0x168, 0x16a, 0xdf, 0x101] ++ codes 0xe1 6 ++ [0x12f, 0x10d, 0xe9,
        0x119, 0xeb, 0x117, 0xed, 0xee, 0x12b, 0x111, 0x146, 0x14d, 0x137] ++ codes 0xf4 5 ++
      [0x173, 0xfa, 0xfb, 0xfc, 0x169, 0x16b, 0x2d9]⟩

def iso8859Part5 : ByteTable :=
  ⟨"iso8859_5", ["csisolatincyrillic", "cyrillic", "iso_8859_5", "iso_8859_5_1988", "iso_ir_144"],
    codes 0x80 33 ++ codes 0x401 12 ++ [0xad] ++ codes 0x40e 66 ++ [0x2116] ++ codes 0x451 12 ++
      [0xa7, 0x45e, 0x45f]⟩

def iso8859Part6 : ByteTable :=
  ⟨"iso8859_6", ["arabic", "asmo_708", "csisolatinarabic", "ecma_114", "iso_8859_6",
    "iso_8859_6_1987", "iso_ir_127"],
    codes 0x80 33 ++ [0, 0, 0, 0xa4] ++ holes 7 ++ [0x60c, 0xad] ++ holes 13 ++ [0x61b, 0, 0, 0, 0x61f,
        0] ++ codes 0x621 26 ++ holes 5 ++ codes 0x640 19 ++ holes 13⟩

def iso8859Part7 : ByteTable :=
  ⟨"iso8859_7", ["csisolatingreek", "ecma_118", "elot_928", "greek", "greek8", "iso_8859_7",
    "iso_8859_7_1987", "iso_ir_126"],
    codes 0x80 33 ++ [0x2018, 0x2019, 0xa3, 0x20ac, 0x20af, 0xa6, 0xa7, 0xa8, 0xa9, 0x37a, 0xab,
        0xac, 0xad, 0, 0x2015, 0xb0, 0xb1, 0xb2, 0xb3, 0x384, 0x385, 0x386, 0xb7, 0x388, 0x389,
        0x38a, 0xbb, 0x38c, 0xbd] ++ codes 0x38e 20 ++ [0] ++ codes 0x3a3 44 ++ [0]⟩

def iso8859Part8 : ByteTable :=
  ⟨"iso8859_8", ["csisolatinhebrew", "hebrew", "iso_8859_8", "iso_8859_8_1988", "iso_ir_138"],
    codes 0x80 33 ++ [0] ++ codes 0xa2 8 ++ [0xd7] ++ codes 0xab 15 ++ [0xf7, 0xbb, 0xbc, 0xbd, 0xbe] ++
      holes 32 ++ [0x2017] ++ codes 0x5d0 27 ++ [0, 0, 0x200e, 0x200f, 0]⟩

def iso8859Part9 : ByteTable :=
  ⟨"iso8859_9", ["csisolatin5", "iso_8859_9", "iso_8859_9_1989", "iso_ir_148", "l5", "latin5"],
    codes 0x80 80 ++ [0x11e] ++ codes 0xd1 12 ++ [0x130, 0x15e] ++ codes 0xdf 17 ++ [0x11f] ++
      codes 0xf1 12 ++ [0x131, 0x15f, 0xff]⟩

def iso8859Part10 : ByteTable :=
  ⟨"iso8859_10", ["csisolatin6", "iso_8859_10", "iso_8859_10_1992", "iso_ir_157", "l6", "latin6"],
    codes 0x80 33 ++ [0x104, 0x112, 0x122, 0x12a, 0x128, 0x136, 0xa7, 0x13b, 0x110, 0x160, 0x166,
        0x17d, 0xad, 0x16a, 0x14a, 0xb0, 0x105, 0x113, 0x123, 0x12b, 0x129, 0x137, 0xb7, 0x13c,
        0x111, 0x161, 0x167, 0x17e, 0x2015, 0x16b, 0x14b, 0x100] ++ codes 0xc1 6 ++ [0x12e, 0x10c,
        0xc9, 0x118, 0xcb, 0x116, 0xcd, 0xce, 0xcf, 0xd0, 0x145, 0x14c, 0xd3, 0xd4, 0xd5, 0xd6,
        0x168, 0xd8, 0x172] ++ codes 0xda 6 ++ [0x101] ++ codes 0xe1 6 ++ [0x12f, 0x10d, 0xe9, 0x119,
        0xeb, 0x117, 0xed, 0xee, 0xef, 0xf0, 0x146, 0x14d, 0xf3, 0xf4, 0xf5, 0xf6, 0x169, 0xf8,
        0x173] ++ codes 0xfa 5 ++ [0x138]⟩

def iso8859Part11 : ByteTable :=
  ⟨"iso8859_11", ["iso_8859_11", "iso_8859_11_2001", "thai"],
    codes 0x80 33 ++ codes 0xe01 58 ++ [0, 0, 0, 0] ++ codes 0xe3f 29 ++ [0, 0, 0, 0]⟩

def iso8859Part13 : ByteTable :=
  ⟨"iso8859_13", ["iso_8859_13", "l7", "latin7"],
    codes 0x80 33 ++ [0x201d, 0xa2, 0xa3, 0xa4, 0x201e, 0xa6, 0xa7, 0xd8, 0xa9, 0x156, 0xab, 0xac,
        0xad, 0xae, 0xc6, 0xb0, 0xb1, 0xb2, 0xb3, 0x201c, 0xb5, 0xb6, 0xb7, 0xf8, 0xb9, 0x157,
        0xbb, 0xbc, 0xbd, 0xbe, 0xe6, 0x104, 0x12e, 0x100, 0x106, 0xc4, 0xc5, 0x118, 0x112,
        0x10c, 0xc9, 0x179, 0x116, 0x122, 0x136, 0x12a, 0x13b, 0x160, 0x143, 0x145, 0xd3, 0x14c,
        0xd5, 0xd6, 0xd7, 0x172, 0x141, 0x15a, 0x16a, 0xdc, 0x17b, 0x17d, 0xdf, 0x105, 0x12f,
        0x101, 0x107, 0xe4, 0xe5, 0x119, 0x113, 0x10d, 0xe9, 0x17a, 0x117, 0x123, 0x137, 0x12b,
        0x13c, 0x161, 0x144, 0x146, 0xf3, 0x14d, 0xf5, 0xf6, 0xf7, 0x173, 0x142, 0x15b, 0x16b,
        0xfc, 0x17c, 0x17e, 0x2019]⟩

def iso8859Part14 : ByteTable :=
  ⟨"iso8859_14", ["iso_8859_14", "iso_8859_14_1998", "iso_celtic", "iso_ir_199", "l8", "latin8"],
    codes 0x80 33 ++ [0x1e02, 0x1e03, 0xa3, 0x10a, 0x10b, 0x1e0a, 0xa7, 0x1e80, 0xa9, 0x1e82,
        0x1e0b, 0x1ef2, 0xad, 0xae, 0x178, 0x1e1e, 0x1e1f, 0x120, 0x121, 0x1e40, 0x1e41, 0xb6,
        0x1e56, 0x1e81, 0x1e57, 0x1e83, 0x1e60, 0x1ef3, 0x1e84, 0x1e85, 0x1e61] ++ codes 0xc0 16 ++
      [0x174] ++ codes 0xd1 6 ++ [0x1e6a] ++ codes 0xd8 6 ++ [0x176] ++ codes 0xdf 17 ++ [0x175] ++
      codes 0xf1 6 ++ [0x1e6b] ++ codes 0xf8 6 ++ [0x177, 0xff]⟩

def iso8859Part15 : ByteTable :=
  ⟨"iso8859_15", ["iso_8859_15", "l9", "latin9"],
    codes 0x80 36 ++ [0x20ac, 0xa5, 0x160, 0xa7, 0x161] ++ codes 0xa9 11 ++ [0x17d, 0xb5, 0xb6, 0xb7,
        0x17e, 0xb9, 0xba, 0xbb, 0x152, 0x153, 0x178] ++ codes 0xbf 65⟩

def iso8859Part16 : ByteTable :=
  ⟨"iso8859_16", ["iso_8859_16", "iso_8859_16_2001", "iso_ir_226", "l10", "latin10"],
    codes 0x80 33 ++ [0x104, 0x105, 0x141, 0x20ac, 0x201e, 0x160, 0xa7, 0x161, 0xa9, 0x218, 0xab,
        0x179, 0xad, 0x17a, 0x17b, 0xb0, 0xb1, 0x10c, 0x142, 0x17d, 0x201d, 0xb6, 0xb7, 0x17e,
        0x10d, 0x219, 0xbb, 0x152, 0x153, 0x178, 0x17c, 0xc0, 0xc1, 0xc2, 0x102, 0xc4, 0x106] ++
      codes 0xc6 10 ++ [0x110, 0x143, 0xd2, 0xd3, 0xd4, 0x150, 0xd6, 0x15a, 0x170, 0xd9, 0xda,
        0xdb, 0xdc, 0x118, 0x21a, 0xdf, 0xe0, 0xe1, 0xe2, 0x103, 0xe4, 0x107] ++ codes 0xe6 10 ++
      [0x111, 0x144, 0xf2, 0xf3, 0xf4, 0x151, 0xf6, 0x15b, 0x171, 0xf9, 0xfa, 0xfb, 0xfc, 0x119,
        0x21b, 0xff]⟩

def koi8R : ByteTable :=
  ⟨"koi8_r", ["cskoi8r"],
    [0x2500, 0x2502, 0x250c, 0x2510, 0x2514, 0x2518, 0x251c, 0x2524, 0x252c, 0x2534, 0x253c,
        0x2580, 0x2584, 0x2588, 0x258c, 0x2590, 0x2591, 0x2592, 0x2593, 0x2320, 0x25a0, 0x2219,
        0x221a, 0x2248, 0x2264, 0x2265, 0xa0, 0x2321, 0xb0, 0xb2, 0xb7, 0xf7, 0x2550, 0x2551,
        0x2552, 0x451] ++ codes 0x2553 15 ++ [0x401] ++ codes 0x2562 11 ++ [0xa9, 0x44e, 0x430,
        0x431, 0x446, 0x434, 0x435, 0x444, 0x433, 0x445] ++ codes 0x438 8 ++ [0x44f, 0x440, 0x441,
        0x442, 0x443, 0x436, 0x432, 0x44c, 0x44b, 0x437, 0x448, 0x44d, 0x449, 0x447, 0x44a,
        0x42e, 0x410, 0x411, 0x426, 0x414, 0x415, 0x424, 0x413, 0x425] ++ codes 0x418 8 ++
      [0x42f, 0x420, 0x421, 0x422, 0x423, 0x416, 0x412, 0x42c, 0x42b, 0x417, 0x428, 0x42d, 0x429,
        0x427, 0x42a]⟩

def koi8T : ByteTable :=
  ⟨"koi8_t", [],
    [0x49b, 0x493, 0x201a, 0x492, 0x201e, 0x2026, 0x2020, 0x2021, 0, 0x2030, 0x4b3, 0x2039,
        0x4b2, 0x4b7, 0x4b6, 0, 0x49a, 0x2018, 0x2019, 0x201c, 0x201d, 0x2022, 0x2013, 0x2014, 0,
        0x2122, 0, 0x203a] ++ holes 5 ++ [0x4ef, 0x4ee, 0x451, 0xa4, 0x4e3, 0xa6, 0xa7, 0, 0, 0,
        0xab, 0xac, 0xad, 0xae, 0, 0xb0, 0xb1, 0xb2, 0x401, 0, 0x4e2, 0xb6, 0xb7, 0, 0x2116, 0,
        0xbb, 0, 0, 0, 0xa9, 0x44e, 0x430, 0x431, 0x446, 0x434, 0x435, 0x444, 0x433, 0x445] ++
      codes 0x438 8 ++ [0x44f, 0x440, 0x441, 0x442, 0x443, 0x436, 0x432, 0x44c, 0x44b, 0x437,
        0x448, 0x44d, 0x449, 0x447, 0x44a, 0x42e, 0x410, 0x411, 0x426, 0x414, 0x415, 0x424,
        0x413, 0x425] ++ codes 0x418 8 ++ [0x42f, 0x420, 0x421, 0x422, 0x423, 0x416, 0x412, 0x42c,
        0x42b, 0x417, 0x428, 0x42d, 0x429, 0x427, 0x42a]⟩

def koi8U : ByteTable :=
  ⟨"koi8_u", [],
    [0x2500, 0x2502, 0x250c, 0x2510, 0x2514, 0x2518, 0x251c, 0x2524, 0x252c, 0x2534, 0x253c,
        0x2580, 0x2584, 0x2588, 0x258c, 0x2590, 0x2591, 0x2592, 0x2593, 0x2320, 0x25a0, 0x2219,
        0x221a, 0x2248, 0x2264, 0x2265, 0xa0, 0x2321, 0xb0, 0xb2, 0xb7, 0xf7, 0x2550, 0x2551,
        0x2552, 0x451, 0x454, 0x2554, 0x456, 0x457] ++ codes 0x2557 5 ++ [0x491] ++ codes 0x255d 5 ++
      [0x401, 0x404, 0x2563, 0x406, 0x407] ++ codes 0x2566 5 ++ [0x490, 0x256c, 0xa9, 0x44e, 0x430,
        0x431, 0x446, 0x434, 0x435, 0x444, 0x433, 0x445] ++ codes 0x438 8 ++ [0x44f, 0x440, 0x441,
        0x442, 0x443, 0x436, 0x432, 0x44c, 0x44b, 0x437, 0x448, 0x44d, 0x449, 0x447, 0x44a,
        0x42e, 0x410, 0x411, 0x426, 0x414, 0x415, 0x424, 0x413, 0x425] ++ codes 0x418 8 ++
      [0x42f, 0x420, 0x421, 0x422, 0x423, 0x416, 0x412, 0x42c, 0x42b, 0x417, 0x428, 0x42d, 0x429,
        0x427, 0x42a]⟩

def kz1048 : ByteTable :=
  ⟨"kz1048", ["kz_1048", "rk1048", "strk1048_2002"],
    [0x402, 0x403, 0x201a, 0x453, 0x201e, 0x2026, 0x2020, 0x2021, 0x20ac, 0x2030, 0x409, 0x2039,
        0x40a, 0x49a, 0x4ba, 0x40f, 0x452, 0x2018, 0x2019, 0x201c, 0x201d, 0x2022, 0x2013,
        0x2014, 0, 0x2122, 0x459, 0x203a, 0x45a, 0x49b, 0x4bb, 0x45f, 0xa0, 0x4b0, 0x4b1, 0x4d8,
        0xa4, 0x4e8, 0xa6, 0xa7, 0x401, 0xa9, 0x492, 0xab, 0xac, 0xad, 0xae, 0x4ae, 0xb0, 0xb1,
        0x406, 0x456, 0x4e9, 0xb5, 0xb6, 0xb7, 0x451, 0x2116, 0x493, 0xbb, 0x4d9, 0x4a2, 0x4a3,
        0x4af] ++ codes 0x410 64⟩

def macCroatian : ByteTable :=
  ⟨"mac_croatian", [],
    [0xc4, 0xc5, 0xc7, 0xc9, 0xd1, 0xd6, 0xdc, 0xe1, 0xe0, 0xe2, 0xe4, 0xe3, 0xe5, 0xe7, 0xe9,
        0xe8, 0xea, 0xeb, 0xed, 0xec, 0xee, 0xef, 0xf1, 0xf3, 0xf2, 0xf4, 0xf6, 0xf5, 0xfa, 0xf9,
        0xfb, 0xfc, 0x2020, 0xb0, 0xa2, 0xa3, 0xa7, 0x2022, 0xb6, 0xdf, 0xae, 0x160, 0x2122,
        0xb4, 0xa8, 0x2260, 0x17d, 0xd8, 0x221e, 0xb1, 0x2264, 0x2265, 0x2206, 0xb5, 0x2202,
        0x2211, 0x220f, 0x161, 0x222b, 0xaa, 0xba, 0x3a9, 0x17e, 0xf8, 0xbf, 0xa1, 0xac, 0x221a,
        0x192, 0x2248, 0x106, 0xab, 0x10c, 0x2026, 0xa0, 0xc0, 0xc3, 0xd5, 0x152, 0x153, 0x110,
        0x2014, 0x201c, 0x201d, 0x2018, 0x2019, 0xf7, 0x25ca, 0xf8ff, 0xa9, 0x2044, 0x20ac,
        0x2039, 0x203a, 0xc6, 0xbb, 0x2013, 0xb7, 0x201a, 0x201e, 0x2030, 0xc2, 0x107, 0xc1,
        0x10d, 0xc8, 0xcd, 0xce, 0xcf, 0xcc, 0xd3, 0xd4, 0x111, 0xd2, 0xda, 0xdb, 0xd9, 0x131,
        0x2c6, 0x2dc, 0xaf, 0x3c0, 0xcb, 0x2da, 0xb8, 0xca, 0xe6, 0x2c7]⟩

def macCyrillic : ByteTable :=
  ⟨"mac_cyrillic", ["maccyrillic"],
    codes 0x410 32 ++ [0x2020, 0xb0, 0x490, 0xa3, 0xa7, 0x2022, 0xb6, 0x406, 0xae, 0xa9, 0x2122,
        0x402, 0x452, 0x2260, 0x403, 0x453, 0x221e, 0xb1, 0x2264, 0x2265, 0x456, 0xb5, 0x491,
        0x408, 0x404, 0x454, 0x407, 0x457, 0x409, 0x459, 0x40a, 0x45a, 0x458, 0x405, 0xac,
        0x221a, 0x192, 0x2248, 0x2206, 0xab, 0xbb, 0x2026, 0xa0, 0x40b, 0x45b, 0x40c, 0x45c,
        0x455, 0x2013, 0x2014, 0x201c, 0x201d, 0x2018, 0x2019, 0xf7, 0x201e, 0x40e, 0x45e, 0x40f,
        0x45f, 0x2116, 0x401, 0x451, 0x44f] ++ codes 0x430 31 ++ [0x20ac]⟩

def macGreek : ByteTable :=
  ⟨"mac_greek", ["macgreek"],
    [0xc4, 0xb9, 0xb2, 0xc9, 0xb3, 0xd6, 0xdc, 0x385, 0xe0, 0xe2, 0xe4, 0x384, 0xa8, 0xe7, 0xe9,
        0xe8, 0xea, 0xeb, 0xa3, 0x2122, 0xee, 0xef, 0x2022, 0xbd, 0x2030, 0xf4, 0xf6, 0xa6,
        0x20ac, 0xf9, 0xfb, 0xfc, 0x2020, 0x393, 0x394, 0x398, 0x39b, 0x39e, 0x3a0, 0xdf, 0xae,
        0xa9, 0x3a3, 0x3aa, 0xa7, 0x2260, 0xb0, 0xb7, 0x391, 0xb1, 0x2264, 0x2265, 0xa5, 0x392,
        0x395, 0x396, 0x397, 0x399, 0x39a, 0x39c, 0x3a6, 0x3ab, 0x3a8, 0x3a9, 0x3ac, 0x39d, 0xac,
        0x39f, 0x3a1, 0x2248, 0x3a4, 0xab, 0xbb, 0x2026, 0xa0, 0x3a5, 0x3a7, 0x386, 0x388, 0x153,
        0x2013, 0x2015, 0x201c, 0x201d, 0x2018, 0x2019, 0xf7, 0x389, 0x38a, 0x38c, 0x38e, 0x3ad,
        0x3ae, 0x3af, 0x3cc, 0x38f, 0x3cd, 0x3b1, 0x3b2, 0x3c8, 0x3b4, 0x3b5, 0x3c6, 0x3b3,
        0x3b7, 0x3b9, 0x3be, 0x3ba, 0x3bb, 0x3bc, 0x3bd, 0x3bf, 0x3c0, 0x3ce, 0x3c1, 0x3c3,
        0x3c4, 0x3b8, 0x3c9, 0x3c2, 0x3c7, 0x3c5, 0x3b6, 0x3ca, 0x3cb, 0x390, 0x3b0, 0xad]⟩

def macIceland : ByteTable :=
  ⟨"mac_iceland", ["maciceland"],
    [0xc4, 0xc5, 0xc7, 0xc9, 0xd1, 0xd6, 0xdc, 0xe1, 0xe0, 0xe2, 0xe4, 0xe3, 0xe5, 0xe7, 0xe9,
        0xe8, 0xea, 0xeb, 0xed, 0xec, 0xee, 0xef, 0xf1, 0xf3, 0xf2, 0xf4, 0xf6, 0xf5, 0xfa, 0xf9,
        0xfb, 0xfc, 0xdd, 0xb0, 0xa2, 0xa3, 0xa7, 0x2022, 0xb6, 0xdf, 0xae, 0xa9, 0x2122, 0xb4,
        0xa8, 0x2260, 0xc6, 0xd8, 0x221e, 0xb1, 0x2264, 0x2265, 0xa5, 0xb5, 0x2202, 0x2211,
        0x220f, 0x3c0, 0x222b, 0xaa, 0xba, 0x3a9, 0xe6, 0xf8, 0xbf, 0xa1, 0xac, 0x221a, 0x192,
        0x2248, 0x2206, 0xab, 0xbb, 0x2026, 0xa0, 0xc0, 0xc3, 0xd5, 0x152, 0x153, 0x2013, 0x2014,
        0x201c, 0x201d, 0x2018, 0x2019, 0xf7, 0x25ca, 0xff, 0x178, 0x2044, 0x20ac, 0xd0, 0xf0,
        0xde, 0xfe, 0xfd, 0xb7, 0x201a, 0x201e, 0x2030, 0xc2, 0xca, 0xc1, 0xcb, 0xc8, 0xcd, 0xce,
        0xcf, 0xcc, 0xd3, 0xd4, 0xf8ff, 0xd2, 0xda, 0xdb, 0xd9, 0x131, 0x2c6, 0x2dc, 0xaf, 0x2d8,
        0x2d9, 0x2da, 0xb8, 0x2dd, 0x2db, 0x2c7]⟩

def macLatin2 : ByteTable :=
  ⟨"mac_latin2", ["mac_centeuro", "maccentraleurope", "maclatin2"],
    [0xc4, 0x100, 0x101, 0xc9, 0x104, 0xd6, 0xdc, 0xe1, 0x105, 0x10c, 0xe4, 0x10d, 0x106, 0x107,
        0xe9, 0x179, 0x17a, 0x10e, 0xed, 0x10f, 0x112, 0x113, 0x116, 0xf3, 0x117, 0xf4, 0xf6,
        0xf5, 0xfa, 0x11a, 0x11b, 0xfc, 0x2020, 0xb0, 0x118, 0xa3, 0xa7, 0x2022, 0xb6, 0xdf,
        0xae, 0xa9, 0x2122, 0x119, 0xa8, 0x2260, 0x123, 0x12e, 0x12f, 0x12a, 0x2264, 0x2265,
        0x12b, 0x136, 0x2202, 0x2211, 0x142, 0x13b, 0x13c, 0x13d, 0x13e, 0x139, 0x13a, 0x145,
        0x146, 0x143, 0xac, 0x221a, 0x144, 0x147, 0x2206, 0xab, 0xbb, 0x2026, 0xa0, 0x148, 0x150,
        0xd5, 0x151, 0x14c, 0x2013, 0x2014, 0x201c, 0x201d, 0x2018, 0x2019, 0xf7, 0x25ca, 0x14d,
        0x154, 0x155, 0x158, 0x2039, 0x203a, 0x159, 0x156, 0x157, 0x160, 0x201a, 0x201e, 0x161,
        0x15a, 0x15b, 0xc1, 0x164, 0x165, 0xcd, 0x17d, 0x17e, 0x16a, 0xd3, 0xd4, 0x16b, 0x16e,
        0xda] ++ codes 0x16f 5 ++ [0xdd, 0xfd, 0x137, 0x17b, 0x141, 0x17c, 0x122, 0x2c7]⟩

def macRoman : ByteTable :=
  ⟨"mac_roman", ["macintosh", "macroman"],
    [0xc4, 0xc5, 0xc7, 0xc9, 0xd1, 0xd6, 0xdc, 0xe1, 0xe0, 0xe2, 0xe4, 0xe3, 0xe5, 0xe7, 0xe9,
        0xe8, 0xea, 0xeb, 0xed, 0xec, 0xee, 0xef, 0xf1, 0xf3, 0xf2, 0xf4, 0xf6, 0xf5, 0xfa, 0xf9,
        0xfb, 0xfc, 0x2020, 0xb0, 0xa2, 0xa3, 0xa7, 0x2022, 0xb6, 0xdf, 0xae, 0xa9, 0x2122, 0xb4,
        0xa8, 0x2260, 0xc6, 0xd8, 0x221e, 0xb1, 0x2264, 0x2265, 0xa5, 0xb5, 0x2202, 0x2211,
        0x220f, 0x3c0, 0x222b, 0xaa, 0xba, 0x3a9, 0xe6, 0xf8, 0xbf, 0xa1, 0xac, 0x221a, 0x192,
        0x2248, 0x2206, 0xab, 0xbb, 0x2026, 0xa0, 0xc0, 0xc3, 0xd5, 0x152, 0x153, 0x2013, 0x2014,
        0x201c, 0x201d, 0x2018, 0x2019, 0xf7, 0x25ca, 0xff, 0x178, 0x2044, 0x20ac, 0x2039,
        0x203a, 0xfb01, 0xfb02, 0x2021, 0xb7, 0x201a, 0x201e, 0x2030, 0xc2, 0xca, 0xc1, 0xcb,
        0xc8, 0xcd, 0xce, 0xcf, 0xcc, 0xd3, 0xd4, 0xf8ff, 0xd2, 0xda, 0xdb, 0xd9, 0x131, 0x2c6,
        0x2dc, 0xaf, 0x2d8, 0x2d9, 0x2da, 0xb8, 0x2dd, 0x2db, 0x2c7]⟩

def macRomanian : ByteTable :=
  ⟨"mac_romanian", [],
    [0xc4, 0xc5, 0xc7, 0xc9, 0xd1, 0xd6, 0xdc, 0xe1, 0xe0, 0xe2, 0xe4, 0xe3, 0xe5, 0xe7, 0xe9,
        0xe8, 0xea, 0xeb, 0xed, 0xec, 0xee, 0xef, 0xf1, 0xf3, 0xf2, 0xf4, 0xf6, 0xf5, 0xfa, 0xf9,
        0xfb, 0xfc, 0x2020, 0xb0, 0xa2, 0xa3, 0xa7, 0x2022, 0xb6, 0xdf, 0xae, 0xa9, 0x2122, 0xb4,
        0xa8, 0x2260, 0x102, 0x218, 0x221e, 0xb1, 0x2264, 0x2265, 0xa5, 0xb5, 0x2202, 0x2211,
        0x220f, 0x3c0, 0x222b, 0xaa, 0xba, 0x3a9, 0x103, 0x219, 0xbf, 0xa1, 0xac, 0x221a, 0x192,
        0x2248, 0x2206, 0xab, 0xbb, 0x2026, 0xa0, 0xc0, 0xc3, 0xd5, 0x152, 0x153, 0x2013, 0x2014,
        0x201c, 0x201d, 0x2018, 0x2019, 0xf7, 0x25ca, 0xff, 0x178, 0x2044, 0x20ac, 0x2039,
        0x203a, 0x21a, 0x21b, 0x2021, 0xb7, 0x201a, 0x201e, 0x2030, 0xc2, 0xca, 0xc1, 0xcb, 0xc8,
        0xcd, 0xce, 0xcf, 0xcc, 0xd3, 0xd4, 0xf8ff, 0xd2, 0xda, 0xdb, 0xd9, 0x131, 0x2c6, 0x2dc,
        0xaf, 0x2d8, 0x2d9, 0x2da, 0xb8, 0x2dd, 0x2db, 0x2c7]⟩

def macTurkish : ByteTable :=
  ⟨"mac_turkish", ["macturkish"],
    [0xc4, 0xc5, 0xc7, 0xc9, 0xd1, 0xd6, 0xdc, 0xe1, 0xe0, 0xe2, 0xe4, 0xe3, 0xe5, 0xe7, 0xe9,
        0xe8, 0xea, 0xeb, 0xed, 0xec, 0xee, 0xef, 0xf1, 0xf3, 0xf2, 0xf4, 0xf6, 0xf5, 0xfa, 0xf9,
        0xfb, 0xfc, 0x2020, 0xb0, 0xa2, 0xa3, 0xa7, 0x2022, 0xb6, 0xdf, 0xae, 0xa9, 0x2122, 0xb4,
        0xa8, 0x2260, 0xc6, 0xd8, 0x221e, 0xb1, 0x2264, 0x2265, 0xa5, 0xb5, 0x2202, 0x2211,
        0x220f, 0x3c0, 0x222b, 0xaa, 0xba, 0x3a9, 0xe6, 0xf8, 0xbf, 0xa1, 0xac, 0x221a, 0x192,
        0x2248, 0x2206, 0xab, 0xbb, 0x2026, 0xa0, 0xc0, 0xc3, 0xd5, 0x152, 0x153, 0x2013, 0x2014,
        0x201c, 0x201d, 0x2018, 0x2019, 0xf7, 0x25ca, 0xff, 0x178, 0x11e, 0x11f, 0x130, 0x131,
        0x15e, 0x15f, 0x2021, 0xb7, 0x201a, 0x201e, 0x2030, 0xc2, 0xca, 0xc1, 0xcb, 0xc8, 0xcd,
        0xce, 0xcf, 0xcc, 0xd3, 0xd4, 0xf8ff, 0xd2, 0xda, 0xdb, 0xd9, 0xf8a0, 0x2c6, 0x2dc, 0xaf,
        0x2d8, 0x2d9, 0x2da, 0xb8, 0x2dd, 0x2db, 0x2c7]⟩

def palmos : ByteTable :=
  ⟨"palmos", [],
    [0x20ac, 0x81, 0x201a, 0x192, 0x201e, 0x2026, 0x2020, 0x2021, 0x2c6, 0x2030, 0x160, 0x2039,
        0x152, 0x2666, 0x2663, 0x2665, 0x2660, 0x2018, 0x2019, 0x201c, 0x201d, 0x2022, 0x2013,
        0x2014, 0x2dc, 0x2122, 0x161, 0x9b, 0x153, 0x9d, 0x9e, 0x178] ++ codes 0xa0 96⟩

def ptcp154 : ByteTable :=
  ⟨"ptcp154", ["cp154", "csptcp154", "cyrillic_asian", "pt154"],
    [0x496, 0x492, 0x4ee, 0x493, 0x201e, 0x2026, 0x4b6, 0x4ae, 0x4b2, 0x4af, 0x4a0, 0x4e2, 0x4a2,
        0x49a, 0x4ba, 0x4b8, 0x497, 0x2018, 0x2019, 0x201c, 0x201d, 0x2022, 0x2013, 0x2014,
        0x4b3, 0x4b7, 0x4a1, 0x4e3, 0x4a3, 0x49b, 0x4bb, 0x4b9, 0xa0, 0x40e, 0x45e, 0x408, 0x4e8,
        0x498, 0x4b0, 0xa7, 0x401, 0xa9, 0x4d8, 0xab, 0xac, 0x4ef, 0xae, 0x49c, 0xb0, 0x4b1,
        0x406, 0x456, 0x499, 0x4e9, 0xb6, 0xb7, 0x451, 0x2116, 0x4d9, 0xbb, 0x458, 0x4aa, 0x4ab,
        0x49d] ++ codes 0x410 64⟩

def tis620 : ByteTable :=
  ⟨"tis_620", ["iso_ir_166", "tis620", "tis_620_0", "tis_620_2529_0", "tis_620_2529_1"],
    codes 0x80 32 ++ [0] ++ codes 0xe01 58 ++ [0, 0, 0, 0] ++ codes 0xe3f 29 ++ [0, 0, 0, 0]⟩

/-- All tables. -/
def byteTables : List ByteTable :=
  [cp437, cp720, cp737, cp775, cp850, cp852, cp855, cp856, cp857, cp858, cp860, cp861, cp862, cp863,
   cp865, cp866, cp869, cp874, cp1125, cp1250, cp1251, cp1252, cp1253, cp1254, cp1255, cp1256,
   cp1257, cp1258, hpRoman8, iso8859Part2, iso8859Part3, iso8859Part4, iso8859Part5, iso8859Part6,
   iso8859Part7, iso8859Part8, iso8859Part9, iso8859Part10, iso8859Part11, iso8859Part13,
   iso8859Part14, iso8859Part15, iso8859Part16, koi8R, koi8T, koi8U, kz1048, macCroatian,
   macCyrillic, macGreek, macIceland, macLatin2, macRoman, macRomanian, macTurkish, palmos, ptcp154,
   tis620]

end SchemaDoc.Encoding
