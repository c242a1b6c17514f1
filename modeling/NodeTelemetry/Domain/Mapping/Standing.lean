import NodeTelemetry.Text.Classes

/-!
# Standing of characters in names

Whether a character that has no image can be in a name (0), leaves no trace in it (1) or cannot be
in it (2).
-/

namespace NodeTelemetry.Domain

set_option maxRecDepth 8000 in
/-- The runs of characters of the same standing. -/
def standings : Text.Classes := ⟨#[
    0x0, 0x8002, 0xA100, 0xAD01, 0xAE00, 0x34F01, 0x35000, 0x37802, 0x37B00, 0x38002, 0x39000,
    0x3A202, 0x3AC00, 0x53002, 0x55900, 0x58B02, 0x58D00, 0x59002, 0x59100, 0x5C802, 0x5D000,
    0x5EB02, 0x5EF00, 0x5F502, 0x60600, 0x61C02, 0x61D00, 0x6DD02, 0x6DE00, 0x70E02, 0x71000,
    0x74B02, 0x74D00, 0x7B202, 0x7C000, 0x7FB02, 0x7FD00, 0x82E02, 0x83000, 0x83F02, 0x84000,
    0x85C02, 0x85E00, 0x85F02, 0x86000, 0x86B02, 0x87000, 0x89002, 0x89700, 0x8E202, 0x8E300,
    0x98402, 0x98500, 0x98D02, 0x98F00, 0x99102, 0x99300, 0x9A902, 0x9AA00, 0x9B102, 0x9B200,
    0x9B302, 0x9B600, 0x9BA02, 0x9BC00, 0x9C502, 0x9C700, 0x9C902, 0x9CB00, 0x9CF02, 0x9D700,
    0x9D802, 0x9E000, 0x9E402, 0x9E600, 0x9FF02, 0xA0100, 0xA0402, 0xA0500, 0xA0B02, 0xA0F00,
    0xA1102, 0xA1300, 0xA2902, 0xA2A00, 0xA3102, 0xA3200, 0xA3402, 0xA3500, 0xA3702, 0xA3800,
    0xA3A02, 0xA3C00, 0xA3D02, 0xA3E00, 0xA4302, 0xA4700, 0xA4902, 0xA4B00, 0xA4E02, 0xA5100,
    0xA5202, 0xA5C00, 0xA5D02, 0xA6600, 0xA7702, 0xA8100, 0xA8402, 0xA8500, 0xA8E02, 0xA8F00,
    0xA9202, 0xA9300, 0xAA902, 0xAAA00, 0xAB102, 0xAB200, 0xAB402, 0xAB500, 0xABA02, 0xABC00,
    0xAC602, 0xAC700, 0xACA02, 0xACB00, 0xACE02, 0xAD000, 0xAD102, 0xAE000, 0xAE402, 0xAE600,
    0xAF202, 0xAF900, 0xB0002, 0xB0100, 0xB0402, 0xB0500, 0xB0D02, 0xB0F00, 0xB1102, 0xB1300,
    0xB2902, 0xB2A00, 0xB3102, 0xB3200, 0xB3402, 0xB3500, 0xB3A02, 0xB3C00, 0xB4502, 0xB4700,
    0xB4902, 0xB4B00, 0xB4E02, 0xB5500, 0xB5802, 0xB5F00, 0xB6402, 0xB6600, 0xB7802, 0xB8200,
    0xB8402, 0xB8500, 0xB8B02, 0xB8E00, 0xB9102, 0xB9200, 0xB9602, 0xB9900, 0xB9B02, 0xB9C00,
    0xB9D02, 0xB9E00, 0xBA002, 0xBA300, 0xBA502, 0xBA800, 0xBAB02, 0xBAE00, 0xBBA02, 0xBBE00,
    0xBC302, 0xBC600, 0xBC902, 0xBCA00, 0xBCE02, 0xBD000, 0xBD102, 0xBD700, 0xBD802, 0xBE600,
    0xBFB02, 0xC0000, 0xC0D02, 0xC0E00, 0xC1102, 0xC1200, 0xC2902, 0xC2A00, 0xC3A02, 0xC3C00,
    0xC4502, 0xC4600, 0xC4902, 0xC4A00, 0xC4E02, 0xC5500, 0xC5702, 0xC5800, 0xC5B02, 0xC5C00,
    0xC5E02, 0xC6000, 0xC6402, 0xC6600, 0xC7002, 0xC7700, 0xC8D02, 0xC8E00, 0xC9102, 0xC9200,
    0xCA902, 0xCAA00, 0xCB402, 0xCB500, 0xCBA02, 0xCBC00, 0xCC502, 0xCC600, 0xCC902, 0xCCA00,
    0xCCE02, 0xCD500, 0xCD702, 0xCDC00, 0xCDF02, 0xCE000, 0xCE402, 0xCE600, 0xCF002, 0xCF100,
    0xCF402, 0xD0000, 0xD0D02, 0xD0E00, 0xD1102, 0xD1200, 0xD4502, 0xD4600, 0xD4902, 0xD4A00,
    0xD5002, 0xD5400, 0xD6402, 0xD6600, 0xD8002, 0xD8100, 0xD8402, 0xD8500, 0xD9702, 0xD9A00,
    0xDB202, 0xDB300, 0xDBC02, 0xDBD00, 0xDBE02, 0xDC000, 0xDC702, 0xDCA00, 0xDCB02, 0xDCF00,
    0xDD502, 0xDD600, 0xDD702, 0xDD800, 0xDE002, 0xDE600, 0xDF002, 0xDF200, 0xDF502, 0xE0100,
    0xE3B02, 0xE3F00, 0xE5C02, 0xE8100, 0xE8302, 0xE8400, 0xE8502, 0xE8600, 0xE8B02, 0xE8C00,
    0xEA402, 0xEA500, 0xEA602, 0xEA700, 0xEBE02, 0xEC000, 0xEC502, 0xEC600, 0xEC702, 0xEC800,
    0xECF02, 0xED000, 0xEDA02, 0xEDE00, 0xEE002, 0xF0000, 0xF4802, 0xF4900, 0xF6D02, 0xF7100,
    0xF9802, 0xF9900, 0xFBD02, 0xFBE00, 0xFCD02, 0xFCE00, 0xFDB02, 0x100000, 0x10C602, 0x10D000,
    0x115F01, 0x116100, 0x124902, 0x124A00, 0x124E02, 0x125000, 0x125702, 0x125800, 0x125902,
    0x125A00, 0x125E02, 0x126000, 0x128902, 0x128A00, 0x128E02, 0x129000, 0x12B102, 0x12B200,
    0x12B602, 0x12B800, 0x12BF02, 0x12C000, 0x12C102, 0x12C200, 0x12C602, 0x12C800, 0x12D702,
    0x12D800, 0x131102, 0x131200, 0x131602, 0x131800, 0x135B02, 0x135D00, 0x137D02, 0x138000,
    0x139A02, 0x13A000, 0x13F602, 0x140000, 0x168002, 0x168100, 0x169D02, 0x16A000, 0x16F902,
    0x170000, 0x171602, 0x171F00, 0x173702, 0x174000, 0x175402, 0x176000, 0x176D02, 0x176E00,
    0x177102, 0x177200, 0x177402, 0x178000, 0x17B401, 0x17B600, 0x17DE02, 0x17E000, 0x17EA02,
    0x17F000, 0x17FA02, 0x180000, 0x180B01, 0x181000, 0x181A02, 0x182000, 0x187902, 0x188000,
    0x18AB02, 0x18B000, 0x18F602, 0x190000, 0x191F02, 0x192000, 0x192C02, 0x193000, 0x193C02,
    0x194000, 0x194102, 0x194400, 0x196E02, 0x197000, 0x197502, 0x198000, 0x19AC02, 0x19B000,
    0x19CA02, 0x19D000, 0x19DB02, 0x19DE00, 0x1A1C02, 0x1A1E00, 0x1A5F02, 0x1A6000, 0x1A7D02,
    0x1A7F00, 0x1A8A02, 0x1A9000, 0x1A9A02, 0x1AA000, 0x1AAE02, 0x1AB000, 0x1ADE02, 0x1AE000,
    0x1AEC02, 0x1B0000, 0x1B4D02, 0x1B4E00, 0x1BF402, 0x1BFC00, 0x1C3802, 0x1C3B00, 0x1C4A02,
    0x1C4D00, 0x1C8B02, 0x1CC000, 0x1CC802, 0x1CD000, 0x1CFB02, 0x1D0000, 0x1F1602, 0x1F2000,
    0x1F4602, 0x1F5000, 0x1F5802, 0x1F6000, 0x1F7E02, 0x1FB000, 0x1FB502, 0x1FB600, 0x1FC502,
    0x1FC600, 0x1FD402, 0x1FD600, 0x1FDC02, 0x1FE000, 0x1FF002, 0x1FF600, 0x1FFF02, 0x200B01,
    0x200C00, 0x200E02, 0x201000, 0x202402, 0x202700, 0x202802, 0x203000, 0x206001, 0x206502,
    0x206A01, 0x207202, 0x20A000, 0x20C202, 0x20D000, 0x20F102, 0x210400, 0x218C02, 0x219000,
    0x242A02, 0x244000, 0x244B02, 0x24EB00, 0x2B7402, 0x2B7600, 0x2CF402, 0x2CF900, 0x2D2602,
    0x2D2700, 0x2D2802, 0x2D2D00, 0x2D2E02, 0x2D3000, 0x2D6802, 0x2D7000, 0x2D7102, 0x2D7F00,
    0x2D9702, 0x2DA000, 0x2DA702, 0x2DA800, 0x2DAF02, 0x2DB000, 0x2DB702, 0x2DB800, 0x2DBF02,
    0x2DC000, 0x2DC702, 0x2DC800, 0x2DCF02, 0x2DD000, 0x2DD702, 0x2DD800, 0x2DDF02, 0x2DE000,
    0x2E5E02, 0x2E8000, 0x2E9A02, 0x2E9B00, 0x2EF402, 0x300100, 0x304002, 0x304100, 0x309702,
    0x309900, 0x310002, 0x310500, 0x313002, 0x316401, 0x318F02, 0x319000, 0x31E602, 0x31F000,
    0x321F02, 0x324800, 0x33C202, 0x340000, 0xA48D02, 0xA49000, 0xA4C702, 0xA4D000, 0xA62C02,
    0xA64100, 0xA6F802, 0xA70000, 0xA7DD02, 0xA7F600, 0xA82D02, 0xA83000, 0xA83A02, 0xA84000,
    0xA87802, 0xA88000, 0xA8C602, 0xA8CE00, 0xA8DA02, 0xA8E000, 0xA95402, 0xA95F00, 0xA97D02,
    0xA98000, 0xA9CE02, 0xA9CF00, 0xA9DA02, 0xA9DE00, 0xA9FF02, 0xAA0000, 0xAA3702, 0xAA4000,
    0xAA4E02, 0xAA5000, 0xAA5A02, 0xAA5C00, 0xAAC302, 0xAADB00, 0xAAF702, 0xAB0100, 0xAB0702,
    0xAB0900, 0xAB0F02, 0xAB1100, 0xAB1702, 0xAB2000, 0xAB2702, 0xAB2800, 0xAB2F02, 0xAB3000,
    0xAB6C02, 0xABC000, 0xABEE02, 0xABF000, 0xABFA02, 0xAC0000, 0xD7A402, 0xD7B000, 0xD7C702,
    0xD7CB00, 0xD7FC02, 0xFA0E00, 0xFA6E02, 0xFB1E00, 0xFB3702, 0xFBB200, 0xFDD002, 0xFDFD00,
    0xFE0001, 0xFE1202, 0xFE2000, 0xFE3002, 0xFE4500, 0xFE5202, 0xFE7300, 0xFE7502, 0xFEFF01,
    0xFF0002, 0xFFA001, 0xFFBF02, 0x1000000, 0x1000C02, 0x1000D00, 0x1002702, 0x1002800,
    0x1003B02, 0x1003C00, 0x1003E02, 0x1003F00, 0x1004E02, 0x1005000, 0x1005E02, 0x1008000,
    0x100FB02, 0x1010000, 0x1010302, 0x1010700, 0x1013402, 0x1013700, 0x1018F02, 0x1019000,
    0x1019D02, 0x101A000, 0x101A102, 0x101D000, 0x101FE02, 0x1028000, 0x1029D02, 0x102A000,
    0x102D102, 0x102E000, 0x102FC02, 0x1030000, 0x1032402, 0x1032D00, 0x1034B02, 0x1035000,
    0x1037B02, 0x1038000, 0x1039E02, 0x1039F00, 0x103C402, 0x103C800, 0x103D602, 0x1042800,
    0x1049E02, 0x104A000, 0x104AA02, 0x104D800, 0x104FC02, 0x1050000, 0x1052802, 0x1053000,
    0x1056402, 0x1056F00, 0x1057B02, 0x1059700, 0x105A202, 0x105A300, 0x105B202, 0x105B300,
    0x105BA02, 0x105BB00, 0x105BD02, 0x105C000, 0x105F402, 0x1060000, 0x1073702, 0x1074000,
    0x1075602, 0x1076000, 0x1076802, 0x1078000, 0x1078602, 0x1080000, 0x1080602, 0x1080800,
    0x1080902, 0x1080A00, 0x1083602, 0x1083700, 0x1083902, 0x1083C00, 0x1083D02, 0x1083F00,
    0x1085602, 0x1085700, 0x1089F02, 0x108A700, 0x108B002, 0x108E000, 0x108F302, 0x108F400,
    0x108F602, 0x108FB00, 0x1091C02, 0x1091F00, 0x1093A02, 0x1093F00, 0x1095A02, 0x1098000,
    0x109B802, 0x109BC00, 0x109D002, 0x109D200, 0x10A0402, 0x10A0500, 0x10A0702, 0x10A0C00,
    0x10A1402, 0x10A1500, 0x10A1802, 0x10A1900, 0x10A3602, 0x10A3800, 0x10A3B02, 0x10A3F00,
    0x10A4902, 0x10A5000, 0x10A5902, 0x10A6000, 0x10AA002, 0x10AC000, 0x10AE702, 0x10AEB00,
    0x10AF702, 0x10B0000, 0x10B3602, 0x10B3900, 0x10B5602, 0x10B5800, 0x10B7302, 0x10B7800,
    0x10B9202, 0x10B9900, 0x10B9D02, 0x10BA900, 0x10BB002, 0x10C0000, 0x10C4902, 0x10CC000,
    0x10CF302, 0x10CFA00, 0x10D2802, 0x10D3000, 0x10D3A02, 0x10D4000, 0x10D6602, 0x10D6900,
    0x10D8602, 0x10D8E00, 0x10D9002, 0x10E6000, 0x10E7F02, 0x10E8000, 0x10EAA02, 0x10EAB00,
    0x10EAE02, 0x10EB000, 0x10EB202, 0x10EC200, 0x10EC802, 0x10ED000, 0x10ED902, 0x10EFA00,
    0x10F2802, 0x10F3000, 0x10F5A02, 0x10F7000, 0x10F8A02, 0x10FB000, 0x10FCC02, 0x10FE000,
    0x10FF702, 0x1100000, 0x1104E02, 0x1105200, 0x1107602, 0x1107F00, 0x110BD02, 0x110BE00,
    0x110C302, 0x110D000, 0x110E902, 0x110F000, 0x110FA02, 0x1110000, 0x1113502, 0x1113600,
    0x1114802, 0x1115000, 0x1117702, 0x1118000, 0x111E002, 0x111E100, 0x111F502, 0x1120000,
    0x1121202, 0x1121300, 0x1124202, 0x1128000, 0x1128702, 0x1128800, 0x1128902, 0x1128A00,
    0x1128E02, 0x1128F00, 0x1129E02, 0x1129F00, 0x112AA02, 0x112B000, 0x112EB02, 0x112F000,
    0x112FA02, 0x1130000, 0x1130402, 0x1130500, 0x1130D02, 0x1130F00, 0x1131102, 0x1131300,
    0x1132902, 0x1132A00, 0x1133102, 0x1133200, 0x1133402, 0x1133500, 0x1133A02, 0x1133B00,
    0x1134502, 0x1134700, 0x1134902, 0x1134B00, 0x1134E02, 0x1135000, 0x1135102, 0x1135700,
    0x1135802, 0x1135D00, 0x1136402, 0x1136600, 0x1136D02, 0x1137000, 0x1137502, 0x1138000,
    0x1138A02, 0x1138B00, 0x1138C02, 0x1138E00, 0x1138F02, 0x1139000, 0x113B602, 0x113B700,
    0x113C102, 0x113C200, 0x113C302, 0x113C500, 0x113C602, 0x113C700, 0x113CB02, 0x113CC00,
    0x113D602, 0x113D700, 0x113D902, 0x113E100, 0x113E302, 0x1140000, 0x1145C02, 0x1145D00,
    0x1146202, 0x1148000, 0x114C802, 0x114D000, 0x114DA02, 0x1158000, 0x115B602, 0x115B800,
    0x115DE02, 0x1160000, 0x1164502, 0x1165000, 0x1165A02, 0x1166000, 0x1166D02, 0x1168000,
    0x116BA02, 0x116C000, 0x116CA02, 0x116D000, 0x116E402, 0x1170000, 0x1171B02, 0x1171D00,
    0x1172C02, 0x1173000, 0x1174702, 0x1180000, 0x1183C02, 0x118C000, 0x118F302, 0x118FF00,
    0x1190702, 0x1190900, 0x1190A02, 0x1190C00, 0x1191402, 0x1191500, 0x1191702, 0x1191800,
    0x1193602, 0x1193700, 0x1193902, 0x1193B00, 0x1194702, 0x1195000, 0x1195A02, 0x119A000,
    0x119A802, 0x119AA00, 0x119D802, 0x119DA00, 0x119E502, 0x11A0000, 0x11A4802, 0x11A5000,
    0x11AA302, 0x11AB000, 0x11AF902, 0x11B0000, 0x11B0A02, 0x11B6000, 0x11B6802, 0x11BC000,
    0x11BE202, 0x11BF000, 0x11BFA02, 0x11C0000, 0x11C0902, 0x11C0A00, 0x11C3702, 0x11C3800,
    0x11C4602, 0x11C5000, 0x11C6D02, 0x11C7000, 0x11C9002, 0x11C9200, 0x11CA802, 0x11CA900,
    0x11CB702, 0x11D0000, 0x11D0702, 0x11D0800, 0x11D0A02, 0x11D0B00, 0x11D3702, 0x11D3A00,
    0x11D3B02, 0x11D3C00, 0x11D3E02, 0x11D3F00, 0x11D4802, 0x11D5000, 0x11D5A02, 0x11D6000,
    0x11D6602, 0x11D6700, 0x11D6902, 0x11D6A00, 0x11D8F02, 0x11D9000, 0x11D9202, 0x11D9300,
    0x11D9902, 0x11DA000, 0x11DAA02, 0x11DB000, 0x11DDC02, 0x11DE000, 0x11DEA02, 0x11EE000,
    0x11EF902, 0x11F0000, 0x11F1102, 0x11F1200, 0x11F3B02, 0x11F3E00, 0x11F5B02, 0x11FB000,
    0x11FB102, 0x11FC000, 0x11FF202, 0x11FFF00, 0x1239A02, 0x1240000, 0x1246F02, 0x1247000,
    0x1247502, 0x1248000, 0x1254402, 0x12F9000, 0x12FF302, 0x1300000, 0x1343002, 0x1344000,
    0x1345602, 0x1346000, 0x143FB02, 0x1440000, 0x1464702, 0x1610000, 0x1613A02, 0x1680000,
    0x16A3902, 0x16A4000, 0x16A5F02, 0x16A6000, 0x16A6A02, 0x16A6E00, 0x16ABF02, 0x16AC000,
    0x16ACA02, 0x16AD000, 0x16AEE02, 0x16AF000, 0x16AF602, 0x16B0000, 0x16B4602, 0x16B5000,
    0x16B5A02, 0x16B5B00, 0x16B6202, 0x16B6300, 0x16B7802, 0x16B7D00, 0x16B9002, 0x16D4000,
    0x16D7A02, 0x16E6000, 0x16E9B02, 0x16EBB00, 0x16ED402, 0x16F0000, 0x16F4B02, 0x16F4F00,
    0x16F8802, 0x16F8F00, 0x16FA002, 0x16FE000, 0x16FE502, 0x16FF000, 0x16FF702, 0x1700000,
    0x18CD602, 0x18CFF00, 0x18D1F02, 0x18D8000, 0x18DF302, 0x1AFF000, 0x1AFF402, 0x1AFF500,
    0x1AFFC02, 0x1AFFD00, 0x1AFFF02, 0x1B00000, 0x1B12302, 0x1B13200, 0x1B13302, 0x1B15000,
    0x1B15302, 0x1B15500, 0x1B15602, 0x1B16400, 0x1B16802, 0x1B17000, 0x1B2FC02, 0x1BC0000,
    0x1BC6B02, 0x1BC7000, 0x1BC7D02, 0x1BC8000, 0x1BC8902, 0x1BC9000, 0x1BC9A02, 0x1BC9C00,
    0x1BCA001, 0x1BCA402, 0x1CC0000, 0x1CCFD02, 0x1CD0000, 0x1CEB402, 0x1CEBA00, 0x1CED102,
    0x1CEE000, 0x1CEF102, 0x1CF0000, 0x1CF2E02, 0x1CF3000, 0x1CF4702, 0x1CF5000, 0x1CFC402,
    0x1D00000, 0x1D0F602, 0x1D10000, 0x1D12702, 0x1D12900, 0x1D17301, 0x1D17B00, 0x1D1EB02,
    0x1D20000, 0x1D24602, 0x1D2C000, 0x1D2D402, 0x1D2E000, 0x1D2F402, 0x1D30000, 0x1D35702,
    0x1D36000, 0x1D37902, 0x1D80000, 0x1DA8C02, 0x1DA9B00, 0x1DAA002, 0x1DAA100, 0x1DAB002,
    0x1DF0000, 0x1DF1F02, 0x1DF2500, 0x1DF2B02, 0x1E00000, 0x1E00702, 0x1E00800, 0x1E01902,
    0x1E01B00, 0x1E02202, 0x1E02300, 0x1E02502, 0x1E02600, 0x1E02B02, 0x1E08F00, 0x1E09002,
    0x1E10000, 0x1E12D02, 0x1E13000, 0x1E13E02, 0x1E14000, 0x1E14A02, 0x1E14E00, 0x1E15002,
    0x1E29000, 0x1E2AF02, 0x1E2C000, 0x1E2FA02, 0x1E2FF00, 0x1E30002, 0x1E4D000, 0x1E4FA02,
    0x1E5D000, 0x1E5FB02, 0x1E5FF00, 0x1E60002, 0x1E6C000, 0x1E6DF02, 0x1E6E000, 0x1E6F602,
    0x1E6FE00, 0x1E70002, 0x1E7E000, 0x1E7E702, 0x1E7E800, 0x1E7EC02, 0x1E7ED00, 0x1E7EF02,
    0x1E7F000, 0x1E7FF02, 0x1E80000, 0x1E8C502, 0x1E8C700, 0x1E8D702, 0x1E92200, 0x1E94C02,
    0x1E95000, 0x1E95A02, 0x1E95E00, 0x1E96002, 0x1EC7100, 0x1ECB502, 0x1ED0100, 0x1ED3E02,
    0x1EEF000, 0x1EEF202, 0x1F00000, 0x1F02C02, 0x1F03000, 0x1F09402, 0x1F0A000, 0x1F0AF02,
    0x1F0B100, 0x1F0C002, 0x1F0C100, 0x1F0D002, 0x1F0D100, 0x1F0F602, 0x1F10B00, 0x1F1AE02,
    0x1F1E600, 0x1F20302, 0x1F26000, 0x1F26602, 0x1F30000, 0x1F6D902, 0x1F6DC00, 0x1F6ED02,
    0x1F6F000, 0x1F6FD02, 0x1F70000, 0x1F7DA02, 0x1F7E000, 0x1F7EC02, 0x1F7F000, 0x1F7F102,
    0x1F80000, 0x1F80C02, 0x1F81000, 0x1F84802, 0x1F85000, 0x1F85A02, 0x1F86000, 0x1F88802,
    0x1F89000, 0x1F8AE02, 0x1F8B000, 0x1F8BC02, 0x1F8C000, 0x1F8C202, 0x1F8D000, 0x1F8D902,
    0x1F90000, 0x1FA5802, 0x1FA6000, 0x1FA6E02, 0x1FA7000, 0x1FA7D02, 0x1FA8000, 0x1FA8B02,
    0x1FA8E00, 0x1FAC702, 0x1FAC800, 0x1FAC902, 0x1FACD00, 0x1FADD02, 0x1FADF00, 0x1FAEB02,
    0x1FAEF00, 0x1FAF902, 0x1FB0000, 0x1FB9302, 0x1FB9400, 0x1FBFB02, 0x2000000, 0x2A6E002,
    0x2A70000, 0x2B81E02, 0x2B82000, 0x2CEAE02, 0x2CEB000, 0x2EBE102, 0x2EBF000, 0x2EE5E02,
    0x3000000, 0x3134B02, 0x3135000, 0x3347A02, 0xE010001, 0xE01F002]⟩

end NodeTelemetry.Domain
