/-!
# Composed characters, as data

One row for each character that stands for two others: the character, and the two others, in
hexadecimal digits.
-/

namespace RealtimeClient.Idna

/-- **The rows of the composed characters.** -/
def compositionRows : String := "
C0c41.300 C1c41.301 C2c41.302 C3c41.303 C4c41.308 C5c41.30A C7c43.327 C8c45.300 C9c45.301
CAc45.302 CBc45.308 CCc49.300 CDc49.301 CEc49.302 CFc49.308 D1c4E.303 D2c4F.300 D3c4F.301
D4c4F.302 D5c4F.303 D6c4F.308 D9c55.300 DAc55.301 DBc55.302 DCc55.308 DDc59.301 E0c61.300
E1c61.301 E2c61.302 E3c61.303 E4c61.308 E5c61.30A E7c63.327 E8c65.300 E9c65.301 EAc65.302
EBc65.308 ECc69.300 EDc69.301 EEc69.302 EFc69.308 F1c6E.303 F2c6F.300 F3c6F.301 F4c6F.302
F5c6F.303 F6c6F.308 F9c75.300 FAc75.301 FBc75.302 FCc75.308 FDc79.301 FFc79.308 100c41.304
101c61.304 102c41.306 103c61.306 104c41.328 105c61.328 106c43.301 107c63.301 108c43.302 109c63.302
10Ac43.307 10Bc63.307 10Cc43.30C 10Dc63.30C 10Ec44.30C 10Fc64.30C 112c45.304 113c65.304 114c45.306
115c65.306 116c45.307 117c65.307 118c45.328 119c65.328 11Ac45.30C 11Bc65.30C 11Cc47.302 11Dc67.302
11Ec47.306 11Fc67.306 120c47.307 121c67.307 122c47.327 123c67.327 124c48.302 125c68.302 128c49.303
129c69.303 12Ac49.304 12Bc69.304 12Cc49.306 12Dc69.306 12Ec49.328 12Fc69.328 130c49.307 134c4A.302
135c6A.302 136c4B.327 137c6B.327 139c4C.301 13Ac6C.301 13Bc4C.327 13Cc6C.327 13Dc4C.30C 13Ec6C.30C
143c4E.301 144c6E.301 145c4E.327 146c6E.327 147c4E.30C 148c6E.30C 14Cc4F.304 14Dc6F.304 14Ec4F.306
14Fc6F.306 150c4F.30B 151c6F.30B 154c52.301 155c72.301 156c52.327 157c72.327 158c52.30C 159c72.30C
15Ac53.301 15Bc73.301 15Cc53.302 15Dc73.302 15Ec53.327 15Fc73.327 160c53.30C 161c73.30C 162c54.327
163c74.327 164c54.30C 165c74.30C 168c55.303 169c75.303 16Ac55.304 16Bc75.304 16Cc55.306 16Dc75.306
16Ec55.30A 16Fc75.30A 170c55.30B 171c75.30B 172c55.328 173c75.328 174c57.302 175c77.302 176c59.302
177c79.302 178c59.308 179c5A.301 17Ac7A.301 17Bc5A.307 17Cc7A.307 17Dc5A.30C 17Ec7A.30C 1A0c4F.31B
1A1c6F.31B 1AFc55.31B 1B0c75.31B 1CDc41.30C 1CEc61.30C 1CFc49.30C 1D0c69.30C 1D1c4F.30C 1D2c6F.30C
1D3c55.30C 1D4c75.30C 1D5cDC.304 1D6cFC.304 1D7cDC.301 1D8cFC.301 1D9cDC.30C 1DAcFC.30C 1DBcDC.300
1DCcFC.300 1DEcC4.304 1DFcE4.304 1E0c226.304 1E1c227.304 1E2cC6.304 1E3cE6.304 1E6c47.30C
1E7c67.30C 1E8c4B.30C 1E9c6B.30C 1EAc4F.328 1EBc6F.328 1ECc1EA.304 1EDc1EB.304 1EEc1B7.30C
1EFc292.30C 1F0c6A.30C 1F4c47.301 1F5c67.301 1F8c4E.300 1F9c6E.300 1FAcC5.301 1FBcE5.301
1FCcC6.301 1FDcE6.301 1FEcD8.301 1FFcF8.301 200c41.30F 201c61.30F 202c41.311 203c61.311 204c45.30F
205c65.30F 206c45.311 207c65.311 208c49.30F 209c69.30F 20Ac49.311 20Bc69.311 20Cc4F.30F 20Dc6F.30F
20Ec4F.311 20Fc6F.311 210c52.30F 211c72.30F 212c52.311 213c72.311 214c55.30F 215c75.30F 216c55.311
217c75.311 218c53.326 219c73.326 21Ac54.326 21Bc74.326 21Ec48.30C 21Fc68.30C 226c41.307 227c61.307
228c45.327 229c65.327 22AcD6.304 22BcF6.304 22CcD5.304 22DcF5.304 22Ec4F.307 22Fc6F.307
230c22E.304 231c22F.304 232c59.304 233c79.304 385cA8.301 386c391.301 388c395.301 389c397.301
38Ac399.301 38Cc39F.301 38Ec3A5.301 38Fc3A9.301 390c3CA.301 3AAc399.308 3ABc3A5.308 3ACc3B1.301
3ADc3B5.301 3AEc3B7.301 3AFc3B9.301 3B0c3CB.301 3CAc3B9.308 3CBc3C5.308 3CCc3BF.301 3CDc3C5.301
3CEc3C9.301 3D3c3D2.301 3D4c3D2.308 400c415.300 401c415.308 403c413.301 407c406.308 40Cc41A.301
40Dc418.300 40Ec423.306 419c418.306 439c438.306 450c435.300 451c435.308 453c433.301 457c456.308
45Cc43A.301 45Dc438.300 45Ec443.306 476c474.30F 477c475.30F 4C1c416.306 4C2c436.306 4D0c410.306
4D1c430.306 4D2c410.308 4D3c430.308 4D6c415.306 4D7c435.306 4DAc4D8.308 4DBc4D9.308 4DCc416.308
4DDc436.308 4DEc417.308 4DFc437.308 4E2c418.304 4E3c438.304 4E4c418.308 4E5c438.308 4E6c41E.308
4E7c43E.308 4EAc4E8.308 4EBc4E9.308 4ECc42D.308 4EDc44D.308 4EEc423.304 4EFc443.304 4F0c423.308
4F1c443.308 4F2c423.30B 4F3c443.30B 4F4c427.308 4F5c447.308 4F8c42B.308 4F9c44B.308 622c627.653
623c627.654 624c648.654 625c627.655 626c64A.654 6C0c6D5.654 6C2c6C1.654 6D3c6D2.654 929c928.93C
931c930.93C 934c933.93C 9CBc9C7.9BE 9CCc9C7.9D7 B48cB47.B56 B4BcB47.B3E B4CcB47.B57 B94cB92.BD7
BCAcBC6.BBE BCBcBC7.BBE BCCcBC6.BD7 C48cC46.C56 CC0cCBF.CD5 CC7cCC6.CD5 CC8cCC6.CD6 CCAcCC6.CC2
CCBcCCA.CD5 D4AcD46.D3E D4BcD47.D3E D4CcD46.D57 DDAcDD9.DCA DDCcDD9.DCF DDDcDDC.DCA DDEcDD9.DDF
1026c1025.102E 1B06c1B05.1B35 1B08c1B07.1B35 1B0Ac1B09.1B35 1B0Cc1B0B.1B35 1B0Ec1B0D.1B35
1B12c1B11.1B35 1B3Bc1B3A.1B35 1B3Dc1B3C.1B35 1B40c1B3E.1B35 1B41c1B3F.1B35 1B43c1B42.1B35
1E00c41.325 1E01c61.325 1E02c42.307 1E03c62.307 1E04c42.323 1E05c62.323 1E06c42.331 1E07c62.331
1E08cC7.301 1E09cE7.301 1E0Ac44.307 1E0Bc64.307 1E0Cc44.323 1E0Dc64.323 1E0Ec44.331 1E0Fc64.331
1E10c44.327 1E11c64.327 1E12c44.32D 1E13c64.32D 1E14c112.300 1E15c113.300 1E16c112.301
1E17c113.301 1E18c45.32D 1E19c65.32D 1E1Ac45.330 1E1Bc65.330 1E1Cc228.306 1E1Dc229.306 1E1Ec46.307
1E1Fc66.307 1E20c47.304 1E21c67.304 1E22c48.307 1E23c68.307 1E24c48.323 1E25c68.323 1E26c48.308
1E27c68.308 1E28c48.327 1E29c68.327 1E2Ac48.32E 1E2Bc68.32E 1E2Cc49.330 1E2Dc69.330 1E2EcCF.301
1E2FcEF.301 1E30c4B.301 1E31c6B.301 1E32c4B.323 1E33c6B.323 1E34c4B.331 1E35c6B.331 1E36c4C.323
1E37c6C.323 1E38c1E36.304 1E39c1E37.304 1E3Ac4C.331 1E3Bc6C.331 1E3Cc4C.32D 1E3Dc6C.32D
1E3Ec4D.301 1E3Fc6D.301 1E40c4D.307 1E41c6D.307 1E42c4D.323 1E43c6D.323 1E44c4E.307 1E45c6E.307
1E46c4E.323 1E47c6E.323 1E48c4E.331 1E49c6E.331 1E4Ac4E.32D 1E4Bc6E.32D 1E4CcD5.301 1E4DcF5.301
1E4EcD5.308 1E4FcF5.308 1E50c14C.300 1E51c14D.300 1E52c14C.301 1E53c14D.301 1E54c50.301
1E55c70.301 1E56c50.307 1E57c70.307 1E58c52.307 1E59c72.307 1E5Ac52.323 1E5Bc72.323 1E5Cc1E5A.304
1E5Dc1E5B.304 1E5Ec52.331 1E5Fc72.331 1E60c53.307 1E61c73.307 1E62c53.323 1E63c73.323 1E64c15A.307
1E65c15B.307 1E66c160.307 1E67c161.307 1E68c1E62.307 1E69c1E63.307 1E6Ac54.307 1E6Bc74.307
1E6Cc54.323 1E6Dc74.323 1E6Ec54.331 1E6Fc74.331 1E70c54.32D 1E71c74.32D 1E72c55.324 1E73c75.324
1E74c55.330 1E75c75.330 1E76c55.32D 1E77c75.32D 1E78c168.301 1E79c169.301 1E7Ac16A.308
1E7Bc16B.308 1E7Cc56.303 1E7Dc76.303 1E7Ec56.323 1E7Fc76.323 1E80c57.300 1E81c77.300 1E82c57.301
1E83c77.301 1E84c57.308 1E85c77.308 1E86c57.307 1E87c77.307 1E88c57.323 1E89c77.323 1E8Ac58.307
1E8Bc78.307 1E8Cc58.308 1E8Dc78.308 1E8Ec59.307 1E8Fc79.307 1E90c5A.302 1E91c7A.302 1E92c5A.323
1E93c7A.323 1E94c5A.331 1E95c7A.331 1E96c68.331 1E97c74.308 1E98c77.30A 1E99c79.30A 1E9Bc17F.307
1EA0c41.323 1EA1c61.323 1EA2c41.309 1EA3c61.309 1EA4cC2.301 1EA5cE2.301 1EA6cC2.300 1EA7cE2.300
1EA8cC2.309 1EA9cE2.309 1EAAcC2.303 1EABcE2.303 1EACc1EA0.302 1EADc1EA1.302 1EAEc102.301
1EAFc103.301 1EB0c102.300 1EB1c103.300 1EB2c102.309 1EB3c103.309 1EB4c102.303 1EB5c103.303
1EB6c1EA0.306 1EB7c1EA1.306 1EB8c45.323 1EB9c65.323 1EBAc45.309 1EBBc65.309 1EBCc45.303
1EBDc65.303 1EBEcCA.301 1EBFcEA.301 1EC0cCA.300 1EC1cEA.300 1EC2cCA.309 1EC3cEA.309 1EC4cCA.303
1EC5cEA.303 1EC6c1EB8.302 1EC7c1EB9.302 1EC8c49.309 1EC9c69.309 1ECAc49.323 1ECBc69.323
1ECCc4F.323 1ECDc6F.323 1ECEc4F.309 1ECFc6F.309 1ED0cD4.301 1ED1cF4.301 1ED2cD4.300 1ED3cF4.300
1ED4cD4.309 1ED5cF4.309 1ED6cD4.303 1ED7cF4.303 1ED8c1ECC.302 1ED9c1ECD.302 1EDAc1A0.301
1EDBc1A1.301 1EDCc1A0.300 1EDDc1A1.300 1EDEc1A0.309 1EDFc1A1.309 1EE0c1A0.303 1EE1c1A1.303
1EE2c1A0.323 1EE3c1A1.323 1EE4c55.323 1EE5c75.323 1EE6c55.309 1EE7c75.309 1EE8c1AF.301
1EE9c1B0.301 1EEAc1AF.300 1EEBc1B0.300 1EECc1AF.309 1EEDc1B0.309 1EEEc1AF.303 1EEFc1B0.303
1EF0c1AF.323 1EF1c1B0.323 1EF2c59.300 1EF3c79.300 1EF4c59.323 1EF5c79.323 1EF6c59.309 1EF7c79.309
1EF8c59.303 1EF9c79.303 1F00c3B1.313 1F01c3B1.314 1F02c1F00.300 1F03c1F01.300 1F04c1F00.301
1F05c1F01.301 1F06c1F00.342 1F07c1F01.342 1F08c391.313 1F09c391.314 1F0Ac1F08.300 1F0Bc1F09.300
1F0Cc1F08.301 1F0Dc1F09.301 1F0Ec1F08.342 1F0Fc1F09.342 1F10c3B5.313 1F11c3B5.314 1F12c1F10.300
1F13c1F11.300 1F14c1F10.301 1F15c1F11.301 1F18c395.313 1F19c395.314 1F1Ac1F18.300 1F1Bc1F19.300
1F1Cc1F18.301 1F1Dc1F19.301 1F20c3B7.313 1F21c3B7.314 1F22c1F20.300 1F23c1F21.300 1F24c1F20.301
1F25c1F21.301 1F26c1F20.342 1F27c1F21.342 1F28c397.313 1F29c397.314 1F2Ac1F28.300 1F2Bc1F29.300
1F2Cc1F28.301 1F2Dc1F29.301 1F2Ec1F28.342 1F2Fc1F29.342 1F30c3B9.313 1F31c3B9.314 1F32c1F30.300
1F33c1F31.300 1F34c1F30.301 1F35c1F31.301 1F36c1F30.342 1F37c1F31.342 1F38c399.313 1F39c399.314
1F3Ac1F38.300 1F3Bc1F39.300 1F3Cc1F38.301 1F3Dc1F39.301 1F3Ec1F38.342 1F3Fc1F39.342 1F40c3BF.313
1F41c3BF.314 1F42c1F40.300 1F43c1F41.300 1F44c1F40.301 1F45c1F41.301 1F48c39F.313 1F49c39F.314
1F4Ac1F48.300 1F4Bc1F49.300 1F4Cc1F48.301 1F4Dc1F49.301 1F50c3C5.313 1F51c3C5.314 1F52c1F50.300
1F53c1F51.300 1F54c1F50.301 1F55c1F51.301 1F56c1F50.342 1F57c1F51.342 1F59c3A5.314 1F5Bc1F59.300
1F5Dc1F59.301 1F5Fc1F59.342 1F60c3C9.313 1F61c3C9.314 1F62c1F60.300 1F63c1F61.300 1F64c1F60.301
1F65c1F61.301 1F66c1F60.342 1F67c1F61.342 1F68c3A9.313 1F69c3A9.314 1F6Ac1F68.300 1F6Bc1F69.300
1F6Cc1F68.301 1F6Dc1F69.301 1F6Ec1F68.342 1F6Fc1F69.342 1F70c3B1.300 1F72c3B5.300 1F74c3B7.300
1F76c3B9.300 1F78c3BF.300 1F7Ac3C5.300 1F7Cc3C9.300 1F80c1F00.345 1F81c1F01.345 1F82c1F02.345
1F83c1F03.345 1F84c1F04.345 1F85c1F05.345 1F86c1F06.345 1F87c1F07.345 1F88c1F08.345 1F89c1F09.345
1F8Ac1F0A.345 1F8Bc1F0B.345 1F8Cc1F0C.345 1F8Dc1F0D.345 1F8Ec1F0E.345 1F8Fc1F0F.345 1F90c1F20.345
1F91c1F21.345 1F92c1F22.345 1F93c1F23.345 1F94c1F24.345 1F95c1F25.345 1F96c1F26.345 1F97c1F27.345
1F98c1F28.345 1F99c1F29.345 1F9Ac1F2A.345 1F9Bc1F2B.345 1F9Cc1F2C.345 1F9Dc1F2D.345 1F9Ec1F2E.345
1F9Fc1F2F.345 1FA0c1F60.345 1FA1c1F61.345 1FA2c1F62.345 1FA3c1F63.345 1FA4c1F64.345 1FA5c1F65.345
1FA6c1F66.345 1FA7c1F67.345 1FA8c1F68.345 1FA9c1F69.345 1FAAc1F6A.345 1FABc1F6B.345 1FACc1F6C.345
1FADc1F6D.345 1FAEc1F6E.345 1FAFc1F6F.345 1FB0c3B1.306 1FB1c3B1.304 1FB2c1F70.345 1FB3c3B1.345
1FB4c3AC.345 1FB6c3B1.342 1FB7c1FB6.345 1FB8c391.306 1FB9c391.304 1FBAc391.300 1FBCc391.345
1FC1cA8.342 1FC2c1F74.345 1FC3c3B7.345 1FC4c3AE.345 1FC6c3B7.342 1FC7c1FC6.345 1FC8c395.300
1FCAc397.300 1FCCc397.345 1FCDc1FBF.300 1FCEc1FBF.301 1FCFc1FBF.342 1FD0c3B9.306 1FD1c3B9.304
1FD2c3CA.300 1FD6c3B9.342 1FD7c3CA.342 1FD8c399.306 1FD9c399.304 1FDAc399.300 1FDDc1FFE.300
1FDEc1FFE.301 1FDFc1FFE.342 1FE0c3C5.306 1FE1c3C5.304 1FE2c3CB.300 1FE4c3C1.313 1FE5c3C1.314
1FE6c3C5.342 1FE7c3CB.342 1FE8c3A5.306 1FE9c3A5.304 1FEAc3A5.300 1FECc3A1.314 1FEDcA8.300
1FF2c1F7C.345 1FF3c3C9.345 1FF4c3CE.345 1FF6c3C9.342 1FF7c1FF6.345 1FF8c39F.300 1FFAc3A9.300
1FFCc3A9.345 219Ac2190.338 219Bc2192.338 21AEc2194.338 21CDc21D0.338 21CEc21D4.338 21CFc21D2.338
2204c2203.338 2209c2208.338 220Cc220B.338 2224c2223.338 2226c2225.338 2241c223C.338 2244c2243.338
2247c2245.338 2249c2248.338 2260c3D.338 2262c2261.338 226Dc224D.338 226Ec3C.338 226Fc3E.338
2270c2264.338 2271c2265.338 2274c2272.338 2275c2273.338 2278c2276.338 2279c2277.338 2280c227A.338
2281c227B.338 2284c2282.338 2285c2283.338 2288c2286.338 2289c2287.338 22ACc22A2.338 22ADc22A8.338
22AEc22A9.338 22AFc22AB.338 22E0c227C.338 22E1c227D.338 22E2c2291.338 22E3c2292.338 22EAc22B2.338
22EBc22B3.338 22ECc22B4.338 22EDc22B5.338 304Cc304B.3099 304Ec304D.3099 3050c304F.3099
3052c3051.3099 3054c3053.3099 3056c3055.3099 3058c3057.3099 305Ac3059.3099 305Cc305B.3099
305Ec305D.3099 3060c305F.3099 3062c3061.3099 3065c3064.3099 3067c3066.3099 3069c3068.3099
3070c306F.3099 3071c306F.309A 3073c3072.3099 3074c3072.309A 3076c3075.3099 3077c3075.309A
3079c3078.3099 307Ac3078.309A 307Cc307B.3099 307Dc307B.309A 3094c3046.3099 309Ec309D.3099
30ACc30AB.3099 30AEc30AD.3099 30B0c30AF.3099 30B2c30B1.3099 30B4c30B3.3099 30B6c30B5.3099
30B8c30B7.3099 30BAc30B9.3099 30BCc30BB.3099 30BEc30BD.3099 30C0c30BF.3099 30C2c30C1.3099
30C5c30C4.3099 30C7c30C6.3099 30C9c30C8.3099 30D0c30CF.3099 30D1c30CF.309A 30D3c30D2.3099
30D4c30D2.309A 30D6c30D5.3099 30D7c30D5.309A 30D9c30D8.3099 30DAc30D8.309A 30DCc30DB.3099
30DDc30DB.309A 30F4c30A6.3099 30F7c30EF.3099 30F8c30F0.3099 30F9c30F1.3099 30FAc30F2.3099
30FEc30FD.3099 105C9c105D2.307 105E4c105DA.307 1109Ac11099.110BA 1109Cc1109B.110BA
110ABc110A5.110BA 1112Ec11131.11127 1112Fc11132.11127 1134Bc11347.1133E 1134Cc11347.11357
11383c11382.113C9 11385c11384.113BB 1138Ec1138B.113C2 11391c11390.113C9 113C5c113C2.113C2
113C7c113C2.113B8 113C8c113C2.113C9 114BBc114B9.114BA 114BCc114B9.114B0 114BEc114B9.114BD
115BAc115B8.115AF 115BBc115B9.115AF 11938c11935.11930 16121c1611E.1611E 16122c1611E.16129
16123c1611E.1611F 16124c16129.1611F 16125c1611E.16120 16126c16121.1611F 16127c16122.1611F
16128c16121.16120 16D68c16D67.16D67 16D69c16D63.16D67 16D6Ac16D69.16D67"

end RealtimeClient.Idna
