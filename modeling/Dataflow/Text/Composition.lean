import Dataflow.Text.CodeMap

set_option autoImplicit false

/-! # Compositions

A composition is a character that stands for another one followed by a mark. The table gives,
for every character that can come second, the compositions by the character that comes first.
Syllables of Hangul are not in it; they are composed by counting.
-/

namespace Dataflow.Text

/-- The compositions with one second character. -/
structure Compositions where
  second : Nat
  /-- The compositions by their first character. -/
  byFirst : CodeMap

/-- The compositions by their second character. -/
def compositions : List Compositions :=
  [⟨0x300, .ofText
     "41:c0 45:c8 49:cc 4e:1f8,d2 55:d9 57:1e80 59:1ef2 61:e0 65:e8 69:ec 6e:1f9,f2 75:f9
     77:1e81 79:1ef3 a8:1fed c2:1ea6 ca:1ec0 d4:1ed2 dc:1db e2:1ea7 ea:1ec1 f4:1ed3 fc:1dc
     102:1eb0,1eb1 112:1e14,1e15 14c:1e50,1e51 1a0:1edc,1edd 1af:1eea,1eeb 391:1fba 395:1fc8
     397:1fca 399:1fda 39f:1ff8 3a5:1fea 3a9:1ffa 3b1:1f70 3b5-3b9*1f72 3bf:1f78 3c5:1f7a
     3c9:1f7c,1fd2,1fe2 415:400 418:40d 435:450 438:45d 1f00:1f02,1f03 1f08:1f0a,1f0b
     1f10:1f12,1f13 1f18:1f1a,1f1b 1f20:1f22,1f23 1f28:1f2a,1f2b 1f30:1f32,1f33 1f38:1f3a,1f3b
     1f40:1f42,1f43 1f48:1f4a,1f4b 1f50:1f52,1f53 1f59:1f5b 1f60:1f62,1f63 1f68:1f6a,1f6b
     1fbf:1fcd 1ffe:1fdd"⟩,
   ⟨0x301, .ofText
     "41:c1 43:106 45:c9 47:1f4 49:cd 4b:1e30,139,1e3e,143,d3,1e54 52:154,15a 55:da 57:1e82
     59:dd,179 61:e1 63:107 65:e9 67:1f5 69:ed 6b:1e31,13a,1e3f,144,f3,1e55 72:155,15b 75:fa
     77:1e83 79:fd,17a a8:385 c2:1ea4 c6:1fc,1e08 ca:1ebe cf:1e2e d4:1ed0,1e4c d8:1fe dc:1d7
     e2:1ea5 e5:1fb,1fd,1e09 ea:1ebf ef:1e2f f4:1ed1,1e4d f8:1ff fc:1d8 102:1eae,1eaf
     112:1e16,1e17 14c:1e52,1e53 168:1e78,1e79 1a0:1eda,1edb 1af:1ee8,1ee9 391:386 395:388
     397:389 399:38a 39f:38c 3a5:38e 3a9:38f 3b1:3ac 3b5:3ad 3b7:3ae 3b9:3af 3bf:3cc 3c5:3cd
     3c9:3ce,390,3b0 3d2:3d3 413:403 41a:40c 433:453 43a:45c 1f00:1f04,1f05 1f08:1f0c,1f0d
     1f10:1f14,1f15 1f18:1f1c,1f1d 1f20:1f24,1f25 1f28:1f2c,1f2d 1f30:1f34,1f35 1f38:1f3c,1f3d
     1f40:1f44,1f45 1f48:1f4c,1f4d 1f50:1f54,1f55 1f59:1f5d 1f60:1f64,1f65 1f68:1f6c,1f6d
     1fbf:1fce 1ffe:1fde 212b:1fa"⟩,
   ⟨0x302, .ofText
     "41:c2 43:108 45:ca 47:11c,124,ce,134 4f:d4 53:15c 55:db 57:174 59:176,1e90 61:e2 63:109
     65:ea 67:11d,125,ee,135 6f:f4 73:15d 75:fb 77:175 79:177,1e91 1ea0:1eac,1ead
     1eb8:1ec6,1ec7 1ecc:1ed8,1ed9"⟩,
   ⟨0x303, .ofText
     "41:c3 45:1ebc 49:128 4e:d1,d5 55:168,1e7c 59:1ef8 61:e3 65:1ebd 69:129 6e:f1,f5
     75:169,1e7d 79:1ef9 c2:1eaa ca:1ec4 d4:1ed6 e2:1eab ea:1ec5 f4:1ed7 102:1eb4,1eb5
     1a0:1ee0,1ee1 1af:1eee,1eef"⟩,
   ⟨0x304, .ofText
     "41:100 45:112 47:1e20 49:12a 4f:14c 55:16a 59:232 61:101 65:113 67:1e21 69:12b 6f:14d
     75:16b 79:233 c4:1de c6:1e2 d5:22c,22a dc:1d5 e4:1df e6:1e3 f5:22d,22b fc:1d6 1ea:1ec,1ed
     226:1e0,1e1 22e:230,231 391:1fb9 399:1fd9 3a5:1fe9 3b1:1fb1 3b9:1fd1 3c5:1fe1 418:4e2
     423:4ee 438:4e3 443:4ef 1e36:1e38,1e39 1e5a:1e5c,1e5d"⟩,
   ⟨0x306, .ofText
     "41:102 45:114 47:11e 49:12c 4f:14e 55:16c 61:103 65:115 67:11f 69:12d 6f:14f 75:16d
     228:1e1c,1e1d 391:1fb8 399:1fd8 3a5:1fe8 3b1:1fb0 3b9:1fd0 3c5:1fe0 410:4d0 415:4d6,4c1
     418:419 423:40e 430:4d1 435:4d7,4c2 438:439 443:45e 1ea0:1eb6,1eb7"⟩,
   ⟨0x307, .ofText
     "41:226,1e02,10a,1e0a,116,1e1e,120,1e22,130 4d:1e40,1e44,22e,1e56 52:1e58,1e60,1e6a
     57:1e86,1e8a,1e8e,17b 61:227,1e03,10b,1e0b,117,1e1f,121,1e23 6d:1e41,1e45,22f,1e57
     72:1e59,1e61,1e6b 77:1e87,1e8b,1e8f,17c 15a:1e64,1e65 160:1e66,1e67 17f:1e9b
     1e62:1e68,1e69 105d2:105c9 105da:105e4"⟩,
   ⟨0x308, .ofText
     "41:c4 45:cb 48:1e26,cf 4f:d6 55:dc 57:1e84,1e8c,178 61:e4 65:eb 68:1e27,ef 6f:f6
     74:1e97,fc 77:1e85,1e8d,ff d5:1e4e f5:1e4f 16a:1e7a,1e7b 399:3aa 3a5:3ab 3b9:3ca 3c5:3cb
     3d2:3d4 406:407 410:4d2 415:401,4dc,4de,4e4 41e:4e6 423:4f0 427:4f4 42b:4f8 42d:4ec
     430:4d3 435:451,4dd,4df,4e5 43e:4e7 443:4f1 447:4f5 44b:4f9 44d:4ed 456:457 4d8:4da,4db
     4e8:4ea,4eb"⟩,
   ⟨0x309, .ofText
     "41:1ea2 45:1eba 49:1ec8 4f:1ece 55:1ee6 59:1ef6 61:1ea3 65:1ebb 69:1ec9 6f:1ecf 75:1ee7
     79:1ef7 c2:1ea8 ca:1ec2 d4:1ed4 e2:1ea9 ea:1ec3 f4:1ed5 102:1eb2,1eb3 1a0:1ede,1edf
     1af:1eec,1eed"⟩,
   ⟨0x30a, .ofText "41:c5 55:16e 61:e5 75:16f 77:1e98 79:1e99"⟩,
   ⟨0x30b, .ofText "4f:150 55:170 6f:151 75:171 423:4f2 443:4f3"⟩,
   ⟨0x30c, .ofText
     "41:1cd 43:10c,10e,11a 47:1e6,21e,1cf 4b:1e8,13d 4e:147,1d1 52:158,160,164,1d3 5a:17d
     61:1ce 63:10d,10f,11b 67:1e7,21f,1d0,1f0,1e9,13e 6e:148,1d2 72:159,161,165,1d4 7a:17e
     dc:1d9 fc:1da 1b7:1ee 292:1ef"⟩,
   ⟨0x30f, .ofText
     "41:200 45:204 49:208 4f:20c 52:210 55:214 61:201 65:205 69:209 6f:20d 72:211 75:215
     474:476,477"⟩,
   ⟨0x311, .ofText
     "41:202 45:206 49:20a 4f:20e 52:212 55:216 61:203 65:207 69:20b 6f:20f 72:213 75:217"⟩,
   ⟨0x313, .ofText
     "391:1f08 395:1f18 397:1f28 399:1f38 39f:1f48 3a9:1f68 3b1:1f00 3b5:1f10 3b7:1f20 3b9:1f30
     3bf:1f40 3c1:1fe4 3c5:1f50 3c9:1f60"⟩,
   ⟨0x314, .ofText
     "391:1f09 395:1f19 397:1f29 399:1f39 39f:1f49 3a1:1fec 3a5:1f59 3a9:1f69 3b1:1f01 3b5:1f11
     3b7:1f21 3b9:1f31 3bf:1f41 3c1:1fe5 3c5:1f51 3c9:1f61"⟩,
   ⟨0x31b, .ofText "4f:1a0 55:1af 6f:1a1 75:1b0"⟩,
   ⟨0x323, .ofText
     "41:1ea0,1e04 44:1e0c,1eb8 48:1e24,1eca 4b:1e32,1e36,1e42,1e46,1ecc
     52:1e5a,1e62,1e6c,1ee4,1e7e,1e88 59:1ef4,1e92 61:1ea1,1e05 64:1e0d,1eb9 68:1e25,1ecb
     6b:1e33,1e37,1e43,1e47,1ecd 72:1e5b,1e63,1e6d,1ee5,1e7f,1e89 79:1ef5,1e93 1a0:1ee2,1ee3
     1af:1ef0,1ef1"⟩,
   ⟨0x324, .ofText "55:1e72 75:1e73"⟩,
   ⟨0x325, .ofText "41:1e00 61:1e01"⟩,
   ⟨0x326, .ofText "53:218,21a 73:219,21b"⟩,
   ⟨0x327, .ofText
     "43:c7,1e10,228 47:122,1e28 4b:136,13b 4e:145 52:156,15e,162 63:e7,1e11,229 67:123,1e29
     6b:137,13c 6e:146 72:157,15f,163"⟩,
   ⟨0x328, .ofText "41:104 45:118 49:12e 4f:1ea 55:172 61:105 65:119 69:12f 6f:1eb 75:173"⟩,
   ⟨0x32d, .ofText
     "44:1e12,1e18 4c:1e3c 4e:1e4a 54:1e70,1e76 64:1e13,1e19 6c:1e3d 6e:1e4b 74:1e71,1e77"⟩,
   ⟨0x32e, .ofText "48:1e2a 68:1e2b"⟩,
   ⟨0x330, .ofText "45:1e1a 49:1e2c 55:1e74 65:1e1b 69:1e2d 75:1e75"⟩,
   ⟨0x331, .ofText
     "42:1e06 44:1e0e 4b:1e34,1e3a 4e:1e48 52:1e5e 54:1e6e 5a:1e94 62:1e07 64:1e0f 68:1e96
     6b:1e35,1e3b 6e:1e49 72:1e5f 74:1e6f 7a:1e95"⟩,
   ⟨0x338, .ofText
     "3c:226e,2260,226f 2190:219a 2192:219b 2194:21ae 21d0:21cd 21d2:21cf 21d4:21ce 2203:2204
     2208:2209 220b:220c 2223:2224 2225:2226 223c:2241 2243:2244 2245:2247 2248:2249 224d:226d
     2261:2262 2264:2270,2271 2272:2274,2275 2276:2278,2279 227a:2280,2281,22e0,22e1
     2282:2284,2285 2286:2288,2289 2291:22e2,22e3 22a2:22ac 22a8:22ad,22ae 22ab:22af
     22b2-22b5>22ea"⟩,
   ⟨0x342, .ofText
     "a8:1fc1 3b1:1fb6 3b7:1fc6 3b9:1fd6 3c5:1fe6 3c9:1ff6,1fd7,1fe7 1f00:1f06,1f07
     1f08:1f0e,1f0f 1f20:1f26,1f27 1f28:1f2e,1f2f 1f30:1f36,1f37 1f38:1f3e,1f3f 1f50:1f56,1f57
     1f59:1f5f 1f60:1f66,1f67 1f68:1f6e,1f6f 1fbf:1fcf 1ffe:1fdf"⟩,
   ⟨0x345, .ofText
     "391:1fbc 397:1fcc 3a9:1ffc 3b1:1fb3 3b7:1fc3 3c9:1ff3 1f00-1f0f>1f80 1f20-1f2f>1f90
     1f60-1f6f>1fa0 1f70:1fb2,1fb4 1f74:1fc2,1fc4 1f7c:1ff2,1ff4 1fb6:1fb7 1fc6:1fc7 1ff6:1ff7"⟩,
   ⟨0x653, .ofText "627:622"⟩,
   ⟨0x654, .ofText "627:623 648:624 64a:626 6c1:6c2 6d2:6d3 6d5:6c0"⟩,
   ⟨0x655, .ofText "627:625"⟩,
   ⟨0x93c, .ofText "928:929 930:931 933:934"⟩,
   ⟨0x9be, .ofText "9c7:9cb"⟩,
   ⟨0x9d7, .ofText "9c7:9cc"⟩,
   ⟨0xb3e, .ofText "b47:b4b"⟩,
   ⟨0xb56, .ofText "b47:b48"⟩,
   ⟨0xb57, .ofText "b47:b4c"⟩,
   ⟨0xbbe, .ofText "bc6:bca,bcb"⟩,
   ⟨0xbd7, .ofText "b92:b94 bc6:bcc"⟩,
   ⟨0xc56, .ofText "c46:c48"⟩,
   ⟨0xcc2, .ofText "cc6:cca"⟩,
   ⟨0xcd5, .ofText "cbf:cc0 cc6:cc7 cca:ccb"⟩,
   ⟨0xcd6, .ofText "cc6:cc8"⟩,
   ⟨0xd3e, .ofText "d46:d4a,d4b"⟩,
   ⟨0xd57, .ofText "d46:d4c"⟩,
   ⟨0xdca, .ofText "dd9:dda ddc:ddd"⟩,
   ⟨0xdcf, .ofText "dd9:ddc"⟩,
   ⟨0xddf, .ofText "dd9:dde"⟩,
   ⟨0x102e, .ofText "1025:1026"⟩,
   ⟨0x1b35, .ofText "1b05-1b0d*1b06 1b11:1b12 1b3a:1b3b 1b3c:1b3d 1b3e:1b40,1b41 1b42:1b43"⟩,
   ⟨0x3099, .ofText
     "3046:3094 304b-3061*304c 3064-3068*3065 306f:3070 3072:3073 3075:3076 3078:3079 307b:307c
     309d:309e 30a6:30f4 30ab-30c1*30ac 30c4-30c8*30c5 30cf:30d0 30d2:30d3 30d5:30d6 30d8:30d9
     30db:30dc 30ef-30f2>30f7 30fd:30fe"⟩,
   ⟨0x309a, .ofText
     "306f:3071 3072:3074 3075:3077 3078:307a 307b:307d 30cf:30d1 30d2:30d4 30d5:30d7 30d8:30da
     30db:30dd"⟩,
   ⟨0x110ba, .ofText "11099:1109a 1109b:1109c 110a5:110ab"⟩,
   ⟨0x11127, .ofText "11131:1112e,1112f"⟩,
   ⟨0x1133e, .ofText "11347:1134b"⟩,
   ⟨0x11357, .ofText "11347:1134c"⟩,
   ⟨0x113b8, .ofText "113c2:113c7"⟩,
   ⟨0x113bb, .ofText "11384:11385"⟩,
   ⟨0x113c2, .ofText "1138b:1138e 113c2:113c5"⟩,
   ⟨0x113c9, .ofText "11382:11383 11390:11391 113c2:113c8"⟩,
   ⟨0x114b0, .ofText "114b9:114bc"⟩,
   ⟨0x114ba, .ofText "114b9:114bb"⟩,
   ⟨0x114bd, .ofText "114b9:114be"⟩,
   ⟨0x115af, .ofText "115b8:115ba,115bb"⟩,
   ⟨0x11930, .ofText "11935:11938"⟩,
   ⟨0x1611e, .ofText "1611e:16121"⟩,
   ⟨0x1611f, .ofText "1611e:16123 16121:16126,16127 16129:16124"⟩,
   ⟨0x16120, .ofText "1611e:16125 16121:16128"⟩,
   ⟨0x16129, .ofText "1611e:16122"⟩,
   ⟨0x16d67, .ofText "16d63:16d69 16d67:16d68 16d69:16d6a"⟩]

end Dataflow.Text
